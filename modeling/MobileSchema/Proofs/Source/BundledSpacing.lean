import MobileSchema.Proofs.Source.BundledText
import MobileSchema.Proofs.Template.Beside

/-!
# The bundled templates with other gaps

What a tag leaves of the line break behind it is a gap in a template.  The trees of a bundled
template for two sorts of gaps are run side by side, in two contexts.  They write the same lines,
with the gaps of the one and of the other in the same places (`Spaced`), or both are refused for the
same reason.  Nothing is asked of the schema.  Main result: `beside_bundled`.
-/

namespace MobileSchema

/-! ### Lines with gaps -/

/-- Lines among which there are gaps, with what stands in the gaps. -/
def filled (gap : List String) (lines : List (Option String)) : List String :=
  lines.flatMap fun line => line.elim gap fun line => [line]

@[simp] theorem filled_nil (gap : List String) : filled gap [] = [] := rfl

@[simp] theorem filled_none_cons (gap : List String) (lines : List (Option String)) :
    filled gap (none :: lines) = gap ++ filled gap lines := rfl

@[simp] theorem filled_some_cons (gap : List String) (line : String) (lines : List (Option String)) :
    filled gap (some line :: lines) = line :: filled gap lines := rfl

@[simp] theorem filled_append (gap : List String) (lines more : List (Option String)) :
    filled gap (lines ++ more) = filled gap lines ++ filled gap more := List.flatMap_append

@[simp] theorem filled_map_some (gap lines : List String) : filled gap (lines.map some) = lines := by
  induction lines with
  | nil => rfl
  | cons line lines ih => rw [List.map_cons, filled_some_cons, ih]

/-- Whether two texts are the same lines with gaps, but for what stands in the gaps. -/
def Spaced (gap gap' : List String) (a b : String) : Prop :=
  ∃ lines, a = textOfLines (filled gap lines) ∧ b = textOfLines (filled gap' lines)

/-- Whether two texts are the same lines with gaps, but for what stands in the gaps and for the
lines behind them. -/
def SpacedBefore (rest rest' gap gap' : List String) (a b : String) : Prop :=
  ∃ lines, a = textOfLines (filled gap lines ++ rest) ∧ b = textOfLines (filled gap' lines ++ rest')

namespace Spaced

variable {gap gap' : List String} {a b c d : String}

/-- Texts of the same lines stay so when they are put together. -/
theorem append (h : Spaced gap gap' a b) (h' : Spaced gap gap' c d) :
    Spaced gap gap' (a ++ c) (b ++ d) := by
  obtain ⟨lines, rfl, rfl⟩ := h
  obtain ⟨more, rfl, rfl⟩ := h'
  exact ⟨lines ++ more, by simp, by simp⟩

theorem ofGap : Spaced gap gap' (textOfLines gap) (textOfLines gap') := ⟨[none], by simp, by simp⟩

theorem ofLines (lines : List String) : Spaced gap gap' (textOfLines lines) (textOfLines lines) :=
  ⟨lines.map some, by simp, by simp⟩

/-- Being the same lines is passed on to texts that are put together from such texts. -/
theorem joinsUp : Template.JoinsUp (Spaced gap gap') := ⟨⟨[], rfl, rfl⟩, append⟩

theorem behindGap (lines : List String) :
    Spaced gap gap' (textOfLines (gap ++ lines)) (textOfLines (gap' ++ lines)) :=
  ⟨none :: lines.map some, by simp, by simp⟩

/-- What is written inside of a line, behind a gap and some lines. -/
theorem around (before : List String) (first last : String) (behind : List String) (x : String) :
    Spaced gap gap' (textOfLines (gap ++ before) ++ first ++ x ++ textOfLines (last :: behind))
      (textOfLines (gap' ++ before) ++ first ++ x ++ textOfLines (last :: behind)) := by
  refine ⟨none :: (before ++ (first ++ x ++ last) :: behind).map some, ?_, ?_⟩ <;>
    simp [String.append_assoc]

end Spaced

/-! ### Trees -/

namespace Template

variable {context context' : Context} {base : State} {scope : Scope} {s : SchemaId}
  {gap gap' : List String} {e : Expr}

/-- What the bundled templates need of two contexts and of their scope. -/
structure ReadyBeside (context context' : Context) (scope : Scope) (s : SchemaId) : Prop where
  safety : context.safety = {}
  safety' : context'.safety = {}
  yields : scope.yields = false
  schema : scope.find "schema" = .schema s
  kinds : scope.find "field_kind" = .kinds

namespace ReadyBeside

/-- The names of the page mean the same inside a loop, unless the loop takes them. -/
theorem inLoop (h : ReadyBeside context context' scope s) {name : String} (hschema : "schema" ≠ name)
    (hkinds : "field_kind" ≠ name) (o : Object) :
    ReadyBeside context context' (scope.inLoop name o) s where
  safety := h.safety
  safety' := h.safety'
  yields := h.yields
  schema := (scope.find_inLoop_of_ne hschema o).trans h.schema
  kinds := (scope.find_inLoop_of_ne hkinds o).trans h.kinds

theorem ofSchema (h : ReadyBeside context context' scope s) (word : String) :
    Agrees context context' base scope (ofSchema word) State.Meets :=
  (Agrees.name (h.schema ▸ .schema s)).member word

/-- What both contexts find is written alike. -/
theorem output (h : ReadyBeside context context' scope s)
    (he : Agrees context context' base scope e State.Meets) :
    Beside context context' base scope (· = ·) [.output e] [.output e] :=
  .output h.safety h.safety' h.yields he

/-- Statements that write the same, between texts. -/
theorem between (h : ReadyBeside context context' scope s) {ss : List Statement}
    {related : String → String → Prop} {first first' last : String}
    (hss : Beside context context' base scope (· = ·) ss ss)
    (hrelated : ∀ x, related (first ++ x ++ last) (first' ++ x ++ last)) :
    Beside context context' base scope related (.text first :: ss ++ [.text last])
      (.text first' :: ss ++ [.text last]) := by
  have hfirst : Beside context context' base scope (fun a b => a = first ∧ b = first')
      [.text first] [.text first'] := .text h.yields ⟨rfl, rfl⟩
  have hlast : Beside context context' base scope (fun a b => a = last ∧ b = last)
      [.text last] [.text last] := .text h.yields ⟨rfl, rfl⟩
  have hmid : Beside context context' base scope
      (fun a b => ∃ x, a = first ++ x ∧ b = first' ++ x) (.text first :: ss) (.text first' :: ss) :=
    hfirst.append hss (by rintro _ _ x _ ⟨rfl, rfl⟩ rfl; exact ⟨x, rfl, rfl⟩)
  exact hmid.append hlast (by rintro _ _ _ _ ⟨x, rfl, rfl⟩ ⟨rfl, rfl⟩; exact hrelated x)

/-- The last lines stand behind lines with gaps. -/
theorem ending (h : ReadyBeside context context' scope s) {ss ts : List Statement}
    (hss : Beside context context' base scope (Spaced gap gap') ss ts) (rest rest' : List String) :
    Beside context context' base scope (SpacedBefore rest rest' gap gap') (ss ++ writing rest)
      (ts ++ writing rest') := by
  have hrest : Beside context context' base scope
      (fun a b => a = textOfLines rest ∧ b = textOfLines rest') (writing rest) (writing rest') :=
    .writing h.yields ⟨rfl, rfl⟩
  refine hss.append hrest ?_
  rintro _ _ _ _ ⟨lines, rfl, rfl⟩ ⟨rfl, rfl⟩
  exact ⟨lines, (textOfLines_append _ _).symm, (textOfLines_append _ _).symm⟩

/-- Loops over the same list, whose name hides nothing that the templates need. -/
theorem loop (h : ReadyBeside context context' scope s) {name : String} {body body' : List Statement}
    {related : String → String → Prop} (hrelated : JoinsUp related)
    (hschema : "schema" ≠ name) (hkinds : "field_kind" ≠ name)
    (he : Agrees context context' base scope e fun later o => later.Meets o ∧ OfSort IsList o)
    (hplain : plainBody name body) (hplain' : plainBody name body')
    (hbody : ∀ {base scope}, ReadyBeside context context' scope s → base.Meets (scope.find name) →
      Beside context context' base scope related body body') :
    Beside context context' base scope related [loopOver name e body] [loopOver name e body'] := by
  refine .loop hrelated he hplain hplain' fun mid o _ ho => ?_
  refine hbody (h.inLoop hschema hkinds o) ?_
  rw [scope.find_inLoop_self]
  exact ho

end ReadyBeside

/-- Statements that write the same lines with gaps do so behind each other. -/
theorem Beside.behind {ss ts more more' : List Statement}
    (h' : Beside context context' base scope (Spaced gap gap') more more')
    (h : Beside context context' base scope (Spaced gap gap') ss ts) :
    Beside context context' base scope (Spaced gap gap') (ss ++ more) (ts ++ more') :=
  h.append h' Spaced.append

/-! ### Properties -/

theorem agrees_declaredOn (h : base.Meets (scope.find "property")) (platform : String) :
    Agrees context context' base scope (declaredOn platform) State.Meets :=
  (Agrees.declared h).member platform

/-- A property line in Swift is the same under both settings. -/
theorem beside_swiftProperty (h : ReadyBeside context context' scope s)
    (hproperty : base.Meets (scope.find "property")) :
    Beside context context' base scope (Spaced gap gap') (swiftProperty gap) (swiftProperty gap') :=
  h.between (h.output (agrees_declaredOn hproperty "ios")) fun x => by
    simpa using Spaced.around [] "    " "" [] x

theorem beside_kotlinProperty (h : ReadyBeside context context' scope s)
    (hproperty : base.Meets (scope.find "property")) :
    Beside context context' base scope (Spaced gap gap') (kotlinProperty gap)
      (kotlinProperty gap') := by
  have hindexed : Agrees context context' base scope
      (.choose (.member (.name "property") "indexed") (.text "@Index ") (.text "")) State.Meets :=
    .choose ((Agrees.name hproperty).member _) (.text _) (.text _)
  have hdeclared := h.output (agrees_declaredOn hproperty "android")
  exact h.between ((h.output hindexed).append hdeclared JoinsUp.eq.append) fun x => by
    simpa using Spaced.around [] "    " "" [] x

/-! ### Models -/

/-- Both contexts ask the model and get the same answer. -/
theorem agrees_ofModel (h : base.Meets (scope.find "model")) (word : String) :
    Agrees context context' base scope (ofModel word) State.Meets :=
  (Agrees.name h).member word

theorem agrees_properties (h : base.Meets (scope.find "model")) :
    Agrees context context' base scope (ofModel "properties")
      fun later o => later.Meets o ∧ OfSort IsList o :=
  (Agrees.name h).asked fun _ _ ho => (repeats_member ho _).and (repeats_properties ho)

theorem agrees_indexedNames (h : base.Meets (scope.find "model")) :
    Agrees context context' base scope (ofModel "indexed_property_and_comma")
      fun later o => later.Meets o ∧ OfSort IsList o :=
  (Agrees.name h).asked fun _ _ ho => (repeats_member ho _).and (repeats_indexedNames ho)

theorem beside_kotlinModel (hgap : gap = [] ∨ gap = [""]) (hgap' : gap' = [] ∨ gap' = [""])
    (h : ReadyBeside context context' scope s) (hmodel : base.Meets (scope.find "model")) :
    Beside context context' base scope (Spaced gap gap') (kotlinModel gap) (kotlinModel gap') := by
  have hhead : Beside context context' base scope (Spaced gap gap')
      [.text (textOfLines (gap ++ [""]) ++ "open class "), .output (ofModel "name"),
        .text (textOfLines [" : RealmObject() \x7b"])]
      [.text (textOfLines (gap' ++ [""]) ++ "open class "), .output (ofModel "name"),
        .text (textOfLines [" : RealmObject() \x7b"])] :=
    h.between (h.output (agrees_ofModel hmodel "name")) (.around [""] _ _ [])
  have hproperties := h.loop Spaced.joinsUp (by decide) (by decide) (agrees_properties hmodel)
    (plain_kotlinProperty hgap) (plain_kotlinProperty hgap') beside_kotlinProperty
  have hend : Beside context context' base scope (Spaced gap gap')
      [.text (textOfLines (gap ++ ["\x7d"]))] [.text (textOfLines (gap' ++ ["\x7d"]))] :=
    .text h.yields (.behindGap _)
  exact (hhead.append hproperties Spaced.append).append hend Spaced.append

theorem beside_swiftKey (h : ReadyBeside context context' scope s)
    (hmodel : base.Meets (scope.find "model")) :
    Beside context context' base scope (Spaced gap gap')
      [.branch (ofModel "primary_key") (swiftKey gap) []]
      [.branch (ofModel "primary_key") (swiftKey gap') []] := by
  have hname : Agrees context context' base scope (.member (ofModel "primary_key") "name")
      State.Meets := (agrees_ofModel hmodel "primary_key").member "name"
  exact .branch (agrees_ofModel hmodel "primary_key") Spaced.joinsUp.nil
    (h.between (h.output hname) (.around _ _ _ _))

/-- The names in the list of indexed properties are written in one line, so there are no gaps. -/
theorem beside_swiftIndexed (h : ReadyBeside context context' scope s)
    (hpair : base.Meets (scope.find "pair")) :
    Beside context context' base scope (· = ·) swiftIndexed swiftIndexed := by
  have hword : ∀ word, Agrees context context' base scope (.member (.name "pair") word)
      State.Meets := fun word => (Agrees.name hpair).member word
  have hname : Beside context context' base scope (· = ·)
      [.text "\"", .output (.member (.name "pair") "data"), .text "\""] _ :=
    h.between (h.output (hword "data")) fun _ => rfl
  have hcomma : Beside context context' base scope (· = ·)
      [.output (.member (.name "pair") "comma"), .text " "] _ :=
    (h.output (hword "comma")).append (.text h.yields rfl) JoinsUp.eq.append
  exact hname.append (.branch (hword "comma") rfl hcomma) JoinsUp.eq.append

theorem beside_swiftIndex (h : ReadyBeside context context' scope s)
    (hmodel : base.Meets (scope.find "model")) :
    Beside context context' base scope (Spaced gap gap')
      [.branch (ofModel "has_indexed_properties") (swiftIndex gap) []]
      [.branch (ofModel "has_indexed_properties") (swiftIndex gap') []] := by
  have hnames := h.loop JoinsUp.eq (by decide) (by decide)
    (agrees_indexedNames hmodel) plain_swiftIndexed plain_swiftIndexed
    beside_swiftIndexed
  exact .branch (agrees_ofModel hmodel "has_indexed_properties") Spaced.joinsUp.nil
    (h.between hnames (.around _ _ _ _))

/-- A class in Swift has the same lines under both settings. -/
theorem beside_swiftModel (hgap : gap = [] ∨ gap = [""]) (hgap' : gap' = [] ∨ gap' = [""])
    (h : ReadyBeside context context' scope s) (hmodel : base.Meets (scope.find "model")) :
    Beside context context' base scope (Spaced gap gap') (swiftModel gap) (swiftModel gap') := by
  have hhead : Beside context context' base scope (Spaced gap gap')
      [.text (textOfLines (gap ++ [""]) ++ "class "), .output (ofModel "name"),
        .text (textOfLines [": Object \x7b"])]
      [.text (textOfLines (gap' ++ [""]) ++ "class "), .output (ofModel "name"),
        .text (textOfLines [": Object \x7b"])] :=
    h.between (h.output (agrees_ofModel hmodel "name")) (.around [""] _ _ [])
  have hproperties := h.loop Spaced.joinsUp (by decide) (by decide) (agrees_properties hmodel)
    (plain_swiftProperty hgap) (plain_swiftProperty hgap') beside_swiftProperty
  have hgaps : Beside context context' base scope (Spaced gap gap') (writing gap) (writing gap') :=
    .writing h.yields .ofGap
  have hend : Beside context context' base scope (Spaced gap gap')
      [.text (textOfLines (gap ++ ["\x7d"]))] [.text (textOfLines (gap' ++ ["\x7d"]))] :=
    .text h.yields (.behindGap _)
  have hlast := (beside_swiftIndex h hmodel).append hend Spaced.append
  exact (((((hhead.append hproperties Spaced.append).append hgaps Spaced.append).append
    (beside_swiftKey h hmodel) Spaced.append).append hgaps Spaced.append).append hlast Spaced.append)

/-! ### Templates -/

theorem beside_lineIf (h : ReadyBeside context context' scope s)
    (he : Agrees context context' base scope e State.Meets) (line : String) :
    Beside context context' base scope (Spaced gap gap') [lineIf gap e line]
      [lineIf gap' e line] :=
  .branch he Spaced.joinsUp.nil (.text h.yields (.behindGap _))

theorem beside_lineShowing (h : ReadyBeside context context' scope s)
    (he : Agrees context context' base scope e State.Meets) (before : String) :
    Beside context context' base scope (Spaced gap gap') [lineShowing gap e before]
      [lineShowing gap' e before] :=
  .branch he Spaced.joinsUp.nil (h.between (h.output he) fun x => by
    simpa using Spaced.around [] before "" [] x)

theorem agrees_models (h : ReadyBeside context context' scope s) :
    Agrees context context' base scope (ofSchema "models")
      fun later o => later.Meets o ∧ OfSort IsList o := by
  have hlist : Repeats base (fun _ o => o = .list (.models s)) (memberOf (.schema s) "models") :=
    repeats_member_eq (repeats_currentGraph.bind fun _ _ _ _ => .pure fun _ _ => rfl)
  rw [Agrees, ofSchema, Expr.value, Expr.value, Expr.value, Expr.value, h.schema, pure_bind]
  exact hlist.imp fun _ o _ ho => ho ▸ ⟨.models s, .inl ⟨_, rfl⟩⟩

/-- A source in Swift has the same lines under both settings. -/
theorem beside_swiftTree (hgap : gap = [] ∨ gap = [""]) (hgap' : gap' = [] ∨ gap' = [""])
    (h : ReadyBeside context context' scope s) (rest rest' : List String) :
    Beside context context' base scope (SpacedBefore rest rest' gap gap') (swiftTree gap rest)
      (swiftTree gap' rest') := by
  have hhead : Beside context context' base scope (Spaced gap gap')
      [.text (textOfLines ["//", "// Generated by realmgen. Do not edit."])] _ :=
    .text h.yields (.ofLines _)
  have hname : Beside context context' base scope (Spaced gap gap')
      [lineShowing gap (ofSchema "module_name") "// Module: "] _ :=
    beside_lineShowing h (h.ofSchema "module_name") _
  have himports : Beside context context' base scope (Spaced gap gap')
      [.text (textOfLines (gap ++ ["//", "", "import Foundation", "import RealmSwift"]))] _ :=
    .text h.yields (.behindGap _)
  have hmodels : Beside context context' base scope (Spaced gap gap')
      [loopOver "model" (ofSchema "models") (swiftModel gap)] _ :=
    h.loop Spaced.joinsUp (by decide) (by decide) (agrees_models h) (plain_swiftModel hgap)
      (plain_swiftModel hgap') (beside_swiftModel hgap hgap')
  exact h.ending (hmodels.behind (himports.behind (hname.behind hhead))) rest rest'

theorem beside_kotlinTree (hgap : gap = [] ∨ gap = [""]) (hgap' : gap' = [] ∨ gap' = [""])
    (h : ReadyBeside context context' scope s) (rest rest' : List String) :
    Beside context context' base scope (SpacedBefore rest rest' gap gap') (kotlinTree gap rest)
      (kotlinTree gap' rest') := by
  have hline : ∀ {e} line, Agrees context context' base scope e State.Meets →
      Beside context context' base scope (Spaced gap gap') [lineIf gap e line]
        [lineIf gap' e line] := fun line he => beside_lineIf h he line
  have hif := fun word line => hline line (h.ofSchema word)
  have htext : ∀ lines, Beside context context' base scope (Spaced gap gap')
      [.text (textOfLines (gap ++ lines))] [.text (textOfLines (gap' ++ lines))] :=
    fun lines => .text h.yields (.behindGap lines)
  -- the statements of the head, in their order
  have hfirst : Beside context context' base scope (Spaced gap gap')
      [.text (textOfLines ["// Generated by realmgen. Do not edit."])] _ :=
    .text h.yields (.ofLines _)
  have hname : Beside context context' base scope (Spaced gap gap')
      [lineShowing gap (ofSchema "package_name") "package "] _ :=
    beside_lineShowing h (h.ofSchema "package_name") _
  have hhead : Beside context context' base scope (Spaced gap gap') (kotlinHead gap)
      (kotlinHead gap') :=
    (hif _ _).behind ((htext _).behind ((hif _ _).behind ((htext _).behind (hname.behind hfirst))))
  have hgaps : Beside context context' base scope (Spaced gap gap') (writing gap) (writing gap') :=
    .writing h.yields .ofGap
  have hdates := hline "import java.util.Date" (.usesDate h.schema h.kinds)
  have hmodels : Beside context context' base scope (Spaced gap gap')
      [loopOver "model" (ofSchema "models") (kotlinModel gap)] _ :=
    h.loop Spaced.joinsUp (by decide) (by decide) (agrees_models h) (plain_kotlinModel hgap)
      (plain_kotlinModel hgap') (beside_kotlinModel hgap hgap')
  -- the imports stand between gaps, and the classes come last
  exact h.ending (hmodels.behind (hgaps.behind (hdates.behind (hgaps.behind ((hif _ _).behind
    (hgaps.behind ((hif _ _).behind (hgaps.behind ((hif _ _).behind (hgaps.behind hhead))))))))))
    rest rest'

/-- The trees of a bundled template write the same lines, whatever the gaps are, or both are
refused. -/
theorem beside_bundled (hgap : gap = [] ∨ gap = [""]) (hgap' : gap' = [] ∨ gap' = [""])
    (h : ReadyBeside context context' scope s) (rest rest' : List String) (language : Language) :
    Beside context context' base scope (SpacedBefore rest rest' gap gap')
      (bundledTree gap rest language) (bundledTree gap' rest' language) := by
  cases language with
  | swift => exact beside_swiftTree hgap hgap' h rest rest'
  | kotlin => exact beside_kotlinTree hgap hgap' h rest rest'

end Template

end MobileSchema
