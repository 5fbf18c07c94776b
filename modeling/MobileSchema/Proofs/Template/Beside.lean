import MobileSchema.Proofs.Template.Asking
import MobileSchema.Proofs.Template.Meeting

/-!
# Templates side by side

Two templates that differ in the texts between their tags only are run side by side.  `Agrees` says
that an expression comes to the same in both, and `Beside` that the statements of the one and of the
other write texts that are related.  There is a rule for each statement that the bundled templates
are made of.  Wherever the one is refused, the other is refused for the same reason.
-/

namespace MobileSchema.Template

variable {context context' : Context} {base st st' : State} {scope : Scope} {e f g : Expr}
  {o : Object} {called word : String} {s : SchemaId}

/-! ### Expressions -/

/-- Whether an expression comes to the same in two contexts, to something of some sort. -/
def Agrees (context context' : Context) (base : State) (scope : Scope) (e : Expr)
    (Q : State → Object → Prop) : Prop :=
  Abreast base (fun later x y => y = x ∧ Q later x) (e.value context scope) (e.value context' scope)

namespace Agrees

variable {Q : State → Object → Prop}

theorem mono {later : State} (h : Agrees context context' base scope e Q)
    (hgrows : base.GrowsTo later) : Agrees context context' later scope e Q :=
  Abreast.mono h hgrows

theorem text (s : String) : Agrees context context' base scope (.text s) State.Meets := by
  rw [Agrees, Expr.value, Expr.value]
  exact Repeats.pure fun _ _ => .text s

/-- A name agrees if the scope gives it what can be met. -/
theorem name (h : base.Meets (scope.find called)) :
    Agrees context context' base scope (.name called) State.Meets := by
  rw [Agrees, Expr.value, Expr.value]
  exact Repeats.pure fun _ hlater => h.mono hlater

/-- What an expression comes to is asked for something. -/
theorem asked (h : Agrees context context' base scope e State.Meets)
    (hmember : ∀ later o, later.Meets o → Repeats later Q (memberOf o word)) :
    Agrees context context' base scope (.member e word) Q := by
  rw [Agrees, Expr.value, Expr.value]
  refine Abreast.bind h fun mid x y _ hxy => ?_
  obtain ⟨rfl, hx⟩ := hxy
  exact hmember mid y hx

/-- Members of what agrees agree. -/
theorem member (h : Agrees context context' base scope e State.Meets) (word : String) :
    Agrees context context' base scope (.member e word) State.Meets :=
  h.asked fun _ _ ho => repeats_member ho word

/-- A choice agrees if the question and both answers do. -/
theorem choose (he : Agrees context context' base scope e State.Meets)
    (hf : Agrees context context' base scope f Q) (hg : Agrees context context' base scope g Q) :
    Agrees context context' base scope (.choose e f g) Q := by
  rw [Agrees, Expr.value, Expr.value]
  refine Abreast.bind he fun mid x y hmid hxy => ?_
  obtain ⟨rfl, hx⟩ := hxy
  refine (repeats_truth hx).abreast fun mid' b hmid' _ => ?_
  split
  · exact hf.mono (hmid.trans hmid')
  · exact hg.mono (hmid.trans hmid')

end Agrees

/-! ### What only some objects have -/

/-- Whether an object is of a sort, or is not there. -/
def OfSort (sort : Object → Prop) (o : Object) : Prop := sort o ∨ ∃ cause, o = .undefined cause

/-- What is asked for by a word that is no kind. -/
theorem repeats_member_ofSort {sort : Object → Prop} (h : base.Meets o)
    (hword : kindNamed? word = none)
    (hattribute : Repeats base (fun _ found => ∀ x, found = some x → sort x) (attribute? o word)) :
    Repeats base (fun _ x => OfSort sort x) (memberOf o word) := by
  have helement : ∀ later, later.Meets o →
      Repeats later (fun _ found => found = none) (element? o (.text word)) := by
    intro later h
    cases h with
    | kinds => exact .pure fun _ _ => hword
    | _ => exact .pure fun _ _ => rfl
  rw [memberOf]
  refine hattribute.bind fun mid found hmid hfound => ?_
  cases found with
  | some found => exact .pure fun _ _ => .inl (hfound found rfl)
  | none =>
    refine (helement mid (h.mono hmid)).bind fun mid found hmid hfound => ?_
    subst hfound
    exact repeats_currentGraph.bind fun _ _ _ _ => .pure fun _ _ => .inr ⟨_, rfl⟩

theorem repeats_member_eq {x : Object}
    (h : Repeats base (fun _ found => found = some x) (attribute? o word)) :
    Repeats base (fun _ found => found = x) (memberOf o word) := by
  rw [memberOf]
  refine h.bind fun _ found _ hfound => ?_
  subst hfound
  exact .pure fun _ _ => rfl

/-- Whether an object is a list. -/
def IsList (o : Object) : Prop := ∃ r, o = .list r

theorem isList_of_some {r : ListRef} : ∀ x, some (.list r) = some x → IsList x :=
  fun _ hx => ⟨r, (Option.some.inj hx).symm⟩

/-- Only a model has properties. -/
theorem repeats_properties (h : base.Meets o) :
    Repeats base (fun _ x => OfSort IsList x) (memberOf o "properties") := by
  apply repeats_member_ofSort h rfl
  cases h with
  | undefined _ => exact .throw _
  | schema s => exact repeats_currentGraph.bind fun _ _ _ _ => .pure fun _ _ => nofun
  | model m => exact repeats_currentGraph.bind fun _ _ _ _ => .pure fun _ _ => isList_of_some
  | property p =>
    refine repeats_currentGraph.bind fun mid g _ _ => ?_
    refine repeats_currentGraph.bind fun mid g _ _ => ?_
    rcases (g.property p).shape with (_ | _) | _ | _ | _ <;> exact .pure fun _ _ => nofun
  | _ => exact .pure fun _ _ => nofun

/-- Only a model has names of indexed properties. -/
theorem repeats_indexedNames (h : base.Meets o) :
    Repeats base (fun _ x => OfSort IsList x) (memberOf o "indexed_property_and_comma") := by
  apply repeats_member_ofSort h rfl
  cases h with
  | undefined _ => exact .throw _
  | schema s => exact repeats_currentGraph.bind fun _ _ _ _ => .pure fun _ _ => nofun
  | model m =>
    refine repeats_currentGraph.bind fun mid g _ _ => ?_
    refine repeats_unlessLacking ((repeats_ask _).bind fun _ _ _ _ => ?_)
    exact (repeats_newList _).imp fun _ _ _ hlist => hlist.imp fun _ h => h.1
  | property p =>
    refine repeats_currentGraph.bind fun mid g _ _ => ?_
    refine repeats_currentGraph.bind fun mid g _ _ => ?_
    rcases (g.property p).shape with (_ | _) | _ | _ | _ <;> exact .pure fun _ _ => nofun
  | _ => exact .pure fun _ _ => nofun

/-- Whether an object is what renders the declaration of a property. -/
def Declares (o : Object) : Prop := ∃ p, o = .method (.property p) (.property .renderedDeclaration)

/-- Only a property has a declaration. -/
theorem repeats_declaring (h : base.Meets o) :
    Repeats base (fun _ x => OfSort Declares x) (memberOf o "rendered_declaration") := by
  apply repeats_member_ofSort h rfl
  cases h with
  | undefined _ => exact .throw _
  | schema s => exact repeats_currentGraph.bind fun _ _ _ _ => .pure fun _ _ => nofun
  | model m => exact repeats_currentGraph.bind fun _ _ _ _ => .pure fun _ _ => nofun
  | property p =>
    exact repeats_currentGraph.bind fun _ _ _ _ => .pure fun _ _ _ hx =>
      ⟨p, (Option.some.inj hx).symm⟩
  | _ => exact .pure fun _ _ => nofun

/-! ### Calls -/

namespace Agrees

/-- The call of what declares a property. -/
theorem declared (h : base.Meets (scope.find "property")) :
    Agrees context context' base scope
      (.call (.member (.name "property") "rendered_declaration") [] [] []) State.Meets := by
  have hfunction : Agrees context context' base scope
      (.member (.name "property") "rendered_declaration") (fun _ => OfSort Declares) :=
    (name h).asked fun _ _ ho => repeats_declaring ho
  rw [Agrees, Expr.value, Expr.value]
  refine Abreast.bind hfunction fun mid x y hmid hxy => ?_
  obtain ⟨rfl, hy⟩ := hxy
  simp only [Expr.placedValues, Expr.values, Expr.spreadValues, Given.spread, List.foldlM_nil,
    pure_bind]
  refine (repeats_escapesIn _).abreast fun mid' escapes _ _ => ?_
  obtain ⟨p, rfl⟩ | ⟨cause, rfl⟩ := hy
  · show Repeats mid' State.Meets (callProperty p .renderedDeclaration {})
    refine repeats_currentGraph.bind fun _ _ _ _ => ?_
    refine Repeats.bind (a := pure (⟨[], []⟩ : Bound)) (Q := fun _ _ => True)
      (.pure fun _ _ => trivial) fun _ _ _ _ => ?_
    exact (repeats_ask _).bind fun _ _ _ _ => .pure fun _ _ => .pair _ _
  · exact .throw _

/-- The question whether the schema has fields for dates. -/
theorem usesDate (hschema : scope.find "schema" = .schema s)
    (hkinds : scope.find "field_kind" = .kinds) :
    Agrees context context' base scope
      (.call (ofSchema "uses_kind") [.member (.name "field_kind") "DATE"] [] []) State.Meets := by
  have hmethod : ∀ context : Context, (ofSchema "uses_kind").value context scope =
      memberOf (.schema s) "uses_kind" := by
    intro context
    rw [ofSchema, Expr.value, Expr.value, hschema, pure_bind]
  have hdate : ∀ context : Context,
      Expr.placedValues context scope [.member (.name "field_kind") "DATE"] = pure [.kind .date] := by
    intro context
    simp only [Expr.placedValues, Expr.value, hkinds]
    rfl
  have hfound : Repeats base (fun _ o => o = .method (.schema s) (.schema .usesKind))
      (memberOf (.schema s) "uses_kind") :=
    repeats_member_eq (repeats_currentGraph.bind fun _ _ _ _ => .pure fun _ _ => rfl)
  -- the question is found, then its argument, and then it is put to the schema
  rw [Agrees, Expr.value, Expr.value, hmethod, hmethod]
  refine hfound.abreast fun mid o hmid ho => ?_
  subst ho
  rw [hdate, hdate]
  simp only [Expr.values, Expr.spreadValues, Given.spread, List.foldlM_nil, pure_bind]
  refine (repeats_escapesIn _).abreast fun mid' escapes _ _ => ?_
  let question : Act Object := do
    let g ← currentGraph
    let kind ← outcomeOf (kindOf (.kind .date))
    return .bool (← resume (g.schemaUsesKind .schema s kind))
  have hkind : ∀ later, Repeats later (fun _ _ => True) (outcomeOf (kindOf (.kind .date))) := by
    have hrun : ∀ st, (outcomeOf (kindOf (.kind .date))).run.run st = (.ok (.ok .date), st) :=
      fun _ => run_outcomeOf rfl
    intro later st st' _ halike
    rw [hrun, hrun]
    exact .answer halike (.refl st) ⟨rfl, trivial⟩
  -- the answer depends on the graph alone, which both states have
  show Repeats mid' State.Meets question
  refine repeats_currentGraph.bind fun _ g _ _ => (hkind _).bind fun _ kind _ _ => ?_
  cases g.schemaUsesKind .schema s kind with
  | ok b => exact .pure fun _ _ => .bool b
  | error fault => exact .throw _

end Agrees

/-! ### Texts that are related -/

/-- Whether parts are texts, and what is written is related. -/
def Texts (related : String → String → Prop) (ps qs : List Object) : Prop :=
  ∃ texts texts' : List String, ps = texts.map .text ∧ qs = texts'.map .text ∧
    related (String.join texts) (String.join texts')

/-- Whether texts stay related when they are put together. -/
structure JoinsUp (related : String → String → Prop) : Prop where
  nil : related "" ""
  append {a b c d : String} : related a b → related c d → related (a ++ c) (b ++ d)

theorem JoinsUp.eq : JoinsUp (· = ·) := ⟨rfl, by rintro a _ c _ rfl rfl; rfl⟩

variable {r : ListRef} {related related' related'' : String → String → Prop} {i : Nat}
  {ps qs more more' : List Object}

theorem Texts.nil (h : related "" "") : Texts related [] [] := ⟨[], [], rfl, rfl, h⟩

theorem Texts.one {s t : String} (h : related s t) : Texts related [.text s] [.text t] :=
  ⟨[s], [t], rfl, rfl, by simpa using h⟩

/-- Related texts behind each other are related. -/
theorem Texts.append (h : Texts related ps qs) (h' : Texts related' more more')
    (happend : ∀ {a b c d}, related a b → related' c d → related'' (a ++ c) (b ++ d)) :
    Texts related'' (ps ++ more) (qs ++ more') := by
  obtain ⟨texts, texts', rfl, rfl, hrelated⟩ := h
  obtain ⟨others, others', rfl, rfl, hrelated'⟩ := h'
  refine ⟨texts ++ others, texts' ++ others', List.map_append.symm, List.map_append.symm, ?_⟩
  rw [String.join_append, String.join_append]
  exact happend hrelated hrelated'

/-! ### Loops -/

theorem State.contents_advanced (st : State) (i : Nat) (r : ListRef) (place : Nat)
    (o? : Option Object) : (st.advanced i r place o?).contents r = st.contents r := by
  cases r <;> cases o? <;> rfl

/-- The rounds of two loops over the same list go together if their bodies do. -/
theorem goTogether_rounds (hrelated : JoinsUp related) {act act' : Object → Act (List Object)}
    (hi : base.loops.length ≤ i) (hitems : base.Meets (.list r))
    (hround : ∀ mid o, base.GrowsTo mid → mid.Meets o →
      Abreast mid (fun _ => Texts related) (act o) (act' o)) :
    ∀ limit place st st', base.GrowsTo st → st.Alike st' → st.LoopAt i r place →
      GoTogether base (fun _ => Option.Rel (Texts related))
        ((rounds i (fun o => do return some (← act o)) limit).run.run st)
        ((rounds i (fun o => do return some (← act' o)) limit).run.run st') := by
  cases hitems with
  | list hitems =>
  intro limit
  induction limit with
  | zero => exact fun _ st st' hst halike _ => .fault halike fun _ => hst
  | succ limit ih =>
    intro place st st' hst halike hloop
    rw [rounds, rounds, run_bind (run_advance hloop), run_bind (run_advance (halike.loopAt hloop)),
      halike.contents]
    have hmid := fun o? => hst.advanced hi r place o?
    cases hnext : (st.contents r)[place]? with
    | none => exact .answer (halike.advanced i r place none) (hmid none) .none
    | some o =>
      have hmet : (st.advanced i r place (some o)).Meets o := by
        refine hitems _ (hmid (some o)) o ?_
        rw [State.contents_advanced]
        exact List.mem_of_getElem? hnext
      simp only [bind_assoc, pure_bind]
      refine .bind (hmid (some o)) (hround _ o (hmid (some o)) hmet _ _ (.refl _)
        (halike.advanced i r place _)) fun ps qs mid mid' halike hgrows htexts => ?_
      -- the loop itself has changed, and so the states only keep what was there before it
      have hrest := ih (place + 1) mid mid' ((hmid (some o)).trans hgrows) halike
        ((hloop.advanced o).mono hgrows)
      refine .bind (.refl base) hrest fun more more' later later' halike hgrows hmore => ?_
      refine .answer halike hgrows (.some (htexts.append ?_ hrelated.append))
      cases hmore with
      | none => exact .nil hrelated.nil
      | some h => exact h

variable {around around' : Surroundings} {body body' : List Statement} {known known' : List String}
  {act act' : List String → Scope → Act (List Object)}

/-- Loops over the same list go together if their bodies do. -/
theorem abreast_turns (hrelated : JoinsUp related) (hplain : plainBody called body)
    (hplain' : plainBody called body') (hitems : base.Meets (.list r))
    (hbody : ∀ mid o known known', base.GrowsTo mid → mid.Meets o →
      Abreast mid (fun _ => Texts related)
        (act known (scope.inLoop called o)) (act' known' (scope.inLoop called o))) :
    Abreast base (fun _ => Texts related)
      (turns context known scope ⟨around, .name called, .bool true, body, []⟩ false 0 (.list r) act
        fun _ _ => pure [])
      (turns context' known' scope ⟨around', .name called, .bool true, body', []⟩ false 0 (.list r)
        act' fun _ _ => pure []) := by
  intro st st' hst halike
  rw [run_turns_list rfl rfl hplain, run_turns_list rfl rfl hplain', halike.loops,
    (halike.enteringLoop r 0).contents]
  have hrounds := goTogether_rounds hrelated (Nat.le_refl st.loops.length) (hitems.mono hst)
    (fun mid o hmid ho => hbody mid o (known ++ [called] ++ Statement.scopeNamesOfAll body)
      (known' ++ [called] ++ Statement.scopeNamesOfAll body') (hst.trans hmid) ho)
    (((st.enteringLoop r 0).contents r).length + growthLimit) 0 _ _
    (st.growsTo_enteringLoop r 0) (halike.enteringLoop r 0) (st.loopAt_enteringLoop r 0)
  refine .bind (.refl st) hrounds fun written written' later later' halike hgrows hwritten => ?_
  cases hwritten with
  | none => exact .answer halike hgrows (.nil hrelated.nil)
  | some h => exact .answer halike hgrows h

/-- A loop over what is not there is refused. -/
theorem turns_undefined {cause : Absence} (hplain : plainBody called body)
    (hcause : cause.isEmptyText = false) :
    turns context known scope ⟨around, .name called, .bool true, body, []⟩ false 0 (.undefined cause)
      act (fun _ _ => pure []) = throw (.undefined cause) := by
  rw [turns_plain rfl rfl hplain]
  simp only [upcomingIn, itemsOf, items?, hcause]
  rfl

/-! ### Statements -/

/-- Where no page is made safe, what an expression comes to is written as it is. -/
theorem run_output (hsafety : context.safety = {}) (hyields : scope.yields = false) :
    (Statement.output e).run context known scope = do
      let o ← e.value context scope
      return ([← shieldedOf false o], scope) := by
  have hlook : ∀ a : Act (List Object × Scope), (renderingAt scope.rendering >>= fun _ => a) = a :=
    fun _ => rfl
  rw [Statement.run, hyields, Context.escapes, hsafety]
  simp only [Bool.false_and, Bool.false_eq_true, if_false, hlook, pure_bind]

/-- A loop over a list, or over nothing. -/
theorem run_loopOver : (loopOver called e body).run context known scope = do
      let parts ← turns context known scope
        ⟨context.surroundings known scope, .name called, .bool true, body, []⟩ false 0
        (← e.value context scope)
        (fun known scope => do return (← Statement.runAll context known scope body).1)
        (fun _ _ => return [])
      return (parts, scope) := by
  rw [loopOver, Statement.run]
  simp only [Statement.runAll]
  rfl

/-- Whether statements have written texts that are related, and have left their scope as it is. -/
def Leaves (scope : Scope) (related : String → String → Prop) (_ : State)
    (p q : List Object × Scope) : Prop :=
  p.2 = scope ∧ q.2 = scope ∧ Texts related p.1 q.1

/-- Whether two lists of statements, which are run in two contexts in the same scope, write texts
that are related. -/
structure Beside (context context' : Context) (base : State) (scope : Scope)
    (related : String → String → Prop) (ss ts : List Statement) : Prop where
  abreast : ∀ known known', Abreast base (Leaves scope related)
    (Statement.runAll context known scope ss) (Statement.runAll context' known' scope ts)

namespace Beside

variable {ss ts more more' : List Statement} {t t' : Statement}

theorem nil (h : related "" "") : Beside context context' base scope related [] [] :=
  ⟨fun _ _ => .pure fun _ _ => ⟨rfl, rfl, .nil h⟩⟩

/-- Statements that go side by side do so behind each other. -/
theorem append (h : Beside context context' base scope related ss ts)
    (h' : Beside context context' base scope related' more more')
    (happend : ∀ {a b c d}, related a b → related' c d → related'' (a ++ c) (b ++ d)) :
    Beside context context' base scope related'' (ss ++ more) (ts ++ more') := by
  refine ⟨fun known known' => ?_⟩
  rw [runAll_append, runAll_append]
  refine (h.abreast known known').bind fun mid p q hmid hpq => ?_
  obtain ⟨first, _⟩ := p
  obtain ⟨first', _⟩ := q
  obtain ⟨rfl, rfl, hfirst⟩ := hpq
  refine ((h'.abreast known known').mono hmid).bind fun mid' p q _ hpq => ?_
  obtain ⟨second, _⟩ := p
  obtain ⟨second', _⟩ := q
  obtain ⟨rfl, rfl, hsecond⟩ := hpq
  exact .pure fun _ _ => ⟨rfl, rfl, hfirst.append hsecond happend⟩

/-- A statement goes beside another if their runs go abreast, whatever names are known around
them. -/
theorem one (h : ∀ known known', Abreast base (Leaves scope related)
      (t.run context known scope) (t'.run context' known' scope)) :
    Beside context context' base scope related [t] [t'] := by
  refine ⟨fun known known' => ?_⟩
  rw [Statement.runAll, Statement.runAll]
  refine (h known known').bind fun mid p q _ hpq => ?_
  obtain ⟨parts, _⟩ := p
  obtain ⟨parts', _⟩ := q
  obtain ⟨rfl, rfl, htexts⟩ := hpq
  simp only [Statement.runAll, pure_bind, List.append_nil]
  exact .pure fun _ _ => ⟨rfl, rfl, htexts⟩

theorem text (hyields : scope.yields = false) {s t : String} (h : related s t) :
    Beside context context' base scope related [.text s] [.text t] := by
  refine one fun known known' => ?_
  rw [Statement.run, Statement.run, hyields]
  exact .pure fun _ _ => ⟨rfl, rfl, .one h⟩

/-- Lines, which are no statement where there are none. -/
theorem writing (hyields : scope.yields = false) {lines lines' : List String}
    (h : related (textOfLines lines) (textOfLines lines')) :
    Beside context context' base scope related (Template.writing lines)
      (Template.writing lines') := by
  -- lines are written as one text, or not at all if there are none
  have hrun : ∀ (context : Context) known (lines : List String), ∃ texts : List String,
      String.join texts = textOfLines lines ∧
      Statement.runAll context known scope (Template.writing lines) =
        pure (texts.map .text, scope) := by
    intro context known lines
    rw [Template.writing]
    split
    · next hnil =>
      rw [hnil]
      exact ⟨[], rfl, rfl⟩
    · refine ⟨[textOfLines lines], by simp, ?_⟩
      simp only [Statement.runAll, Statement.run, hyields]
      rfl
  refine ⟨fun known known' => ?_⟩
  obtain ⟨texts, htexts, hruns⟩ := hrun context known lines
  obtain ⟨texts', htexts', hruns'⟩ := hrun context' known' lines'
  rw [hruns, hruns']
  exact .pure fun _ _ => ⟨rfl, rfl, texts, texts', rfl, rfl, by rw [htexts, htexts']; exact h⟩

/-- An expression that agrees is written alike in both contexts. -/
theorem output (hsafety : context.safety = {}) (hsafety' : context'.safety = {})
    (hyields : scope.yields = false) (he : Agrees context context' base scope e State.Meets) :
    Beside context context' base scope (· = ·) [.output e] [.output e] := by
  refine one fun known known' => ?_
  rw [run_output hsafety hyields, run_output hsafety' hyields]
  refine Abreast.bind he fun mid x y _ hxy => ?_
  obtain ⟨rfl, hx⟩ := hxy
  refine (repeats_shielded hx).abreast fun _ part _ hpart => ?_
  obtain ⟨s, rfl⟩ := hpart
  exact .pure fun _ _ => ⟨rfl, rfl, .one rfl⟩

/-- A branch goes beside another if they ask the same and their bodies go side by side. -/
theorem branch (he : Agrees context context' base scope e State.Meets) (hnil : related "" "")
    (hbody : Beside context context' base scope related body body') :
    Beside context context' base scope related [.branch e body []] [.branch e body' []] := by
  refine one fun known known' => ?_
  rw [Statement.run, Statement.run]
  refine Abreast.bind he fun mid x y hmid hxy => ?_
  obtain ⟨rfl, hx⟩ := hxy
  refine (repeats_truth hx).abreast fun mid' b hmid' _ => ?_
  split
  · exact (hbody.abreast known known').mono (hmid.trans hmid')
  · exact (nil hnil).abreast known known'

/-- Loops over what is a list in both contexts, or not there in both. -/
theorem loop (hrelated : JoinsUp related)
    (he : Agrees context context' base scope e fun later o => later.Meets o ∧ OfSort IsList o)
    (hplain : plainBody called body) (hplain' : plainBody called body')
    (hbody : ∀ mid o, base.GrowsTo mid → mid.Meets o →
      Beside context context' mid (scope.inLoop called o) related body body') :
    Beside context context' base scope related [loopOver called e body]
      [loopOver called e body'] := by
  refine one fun known known' => ?_
  rw [run_loopOver, run_loopOver]
  refine Abreast.bind he fun mid x y hmid hxy => ?_
  obtain ⟨rfl, hx, ⟨r, rfl⟩ | ⟨cause, rfl⟩⟩ := hxy
  · refine Abreast.bind (R := fun _ => Texts related) ?_ fun _ _ _ _ htexts =>
      .pure fun _ _ => ⟨rfl, rfl, htexts⟩
    refine abreast_turns hrelated hplain hplain' hx fun mid' o known known' hmid' ho => ?_
    have hround := (hbody mid' o (hmid.trans hmid') ho).abreast known known'
    exact hround.bind fun _ p q _ hpq => .pure fun _ _ => hpq.2.2
  · cases hx with
    | undefined hcause =>
      rw [turns_undefined hplain hcause, turns_undefined hplain' hcause]
      exact Abreast.throw _

end Beside

end MobileSchema.Template
