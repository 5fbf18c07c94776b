import MobileSchema.Template.Preparation

/-!
# Trees that preparation leaves as they are

Preparation computes the constants of a template.  An expression that hangs on a name or a call is
no constant (`Expr.varies`), and a tree in which all expressions but texts and truth values are of
that kind is prepared as it stands (`isSteady`).  Main result: `prepared_eq_self`.
-/

namespace MobileSchema.Template

variable {table : FunctionTable} {safety : Safety}

/-! ### Expressions -/

/-- Whether an expression hangs on a name or a call at its heart. -/
def Expr.varies : Expr → Bool
  | .name _ | .call .. => true
  | .member e _ => e.varies
  | .choose condition .. => condition.varies
  | _ => false

mutual

/-- Whether an expression has no constants in it but texts and truth values. -/
def Expr.isSteady : Expr → Bool
  | .text _ | .bool _ | .name _ => true
  | .member e _ => e.varies && e.isSteady
  | .call function arguments _ named =>
    function.isSteady && areSteady arguments && areSteady named
  | .choose condition whenTrue whenFalse =>
    condition.varies && condition.isSteady && whenTrue.isSteady && whenFalse.isSteady
  | _ => false

/-- Whether expressions have no constants in them but texts and truth values. -/
def Expr.areSteady : List Expr → Bool
  | [] => true
  | e :: es => e.isSteady && areSteady es

end

/-- A search for a constant that finds none finds none when faults are passed over. -/
theorem unlessFaulty_none {α : Type} {a : Search α} (h : a.run = pure none) :
    (unlessFaulty a).run = pure none := by
  show (try a.run catch _ => return none : Act (Option α)) = _
  rw [h]
  rfl

/-- What varies is no constant. -/
theorem Expr.constant_eq_none {e : Expr} (h : e.varies) :
    (e.constant table safety).run = pure Option.none := by
  fun_induction varies e with
  | case1 => rfl
  | case2 => rfl
  | case3 e word ih =>
    simp only [constant]
    apply unlessFaulty_none
    rw [OptionT.run_bind, ih h]
    rfl
  | case4 condition whenTrue whenFalse ih =>
    simp only [constant]
    rw [OptionT.run_bind, ih h]
    rfl
  | case5 => cases h

theorem Expr.folded_eq_self {e : Expr} (h : e.varies) : e.folded table safety = pure e := by
  rw [folded, constant_eq_none h, pure_bind]
  rfl

mutual

/-- A steady expression has nothing in it that could be computed before. -/
theorem Expr.reduced_eq_self {e : Expr} (h : e.isSteady) : e.reduced table safety = pure e := by
  cases e with
  | text _ | bool _ | name _ => rw [reduced]
  | member e word =>
    simp only [isSteady, Bool.and_eq_true] at h
    rw [reduced, reduced_eq_self h.2, pure_bind]
    exact folded_eq_self (by rw [varies]; exact h.1)
  | call function arguments names named =>
    simp only [isSteady, Bool.and_eq_true] at h
    rw [reduced, reduced_eq_self h.1.1, pure_bind, reducedAll_eq_self h.1.2, pure_bind,
      reducedAll_eq_self h.2, pure_bind]
  | choose condition whenTrue whenFalse =>
    simp only [isSteady, Bool.and_eq_true] at h
    rw [reduced, reduced_eq_self h.1.1.2, pure_bind, reduced_eq_self h.1.2, pure_bind,
      reduced_eq_self h.2, pure_bind]
    exact folded_eq_self (by rw [varies]; exact h.1.1.1)
  | _ => cases h

theorem Expr.reducedAll_eq_self {es : List Expr} (h : Expr.areSteady es) :
    Expr.reducedAll table safety es = pure es := by
  cases es with
  | nil => rw [reducedAll]
  | cons e es =>
    simp only [areSteady, Bool.and_eq_true] at h
    rw [reducedAll, reduced_eq_self h.1, pure_bind, reducedAll_eq_self h.2, pure_bind]

end

mutual

/-- Nothing is refused in an expression that has no filters, tests and integers. -/
theorem Expr.check_eq {e : Expr} (h : e.isSteady) (conditional : Bool) :
    e.check table conditional = pure () := by
  cases e with
  | text _ | bool _ | name _ => rw [check]
  | member e word =>
    simp only [isSteady, Bool.and_eq_true] at h
    rw [check, check_eq h.2]
  | call function arguments names named =>
    simp only [isSteady, Bool.and_eq_true] at h
    rw [check, check_eq h.1.1, pure_bind, checkAll_eq h.1.2, pure_bind, checkAll_eq h.2]
  | choose condition whenTrue whenFalse =>
    simp only [isSteady, Bool.and_eq_true] at h
    rw [check, check_eq h.1.2, pure_bind, check_eq h.1.1.2, pure_bind, check_eq h.2]
  | _ => cases h

theorem Expr.checkAll_eq {es : List Expr} (h : Expr.areSteady es) (conditional : Bool) :
    Expr.checkAll table conditional es = pure () := by
  cases es with
  | nil => rw [checkAll]
  | cons e es =>
    simp only [areSteady, Bool.and_eq_true] at h
    rw [checkAll, check_eq h.1, pure_bind, checkAll_eq h.2]

end

/-- A steady expression is prepared as it stands. -/
theorem Expr.prepared_eq_self {e : Expr} (h : e.isSteady) (conditional : Bool) :
    e.prepared table safety conditional = pure e := by
  cases e with
  | list _ | tuple _ | dict _ => cases h
  | _ =>
    rw [prepared]
    · simp only [reduced_eq_self h, check_eq h, pure_bind, ite_self]
    all_goals simp

/-! ### Statements -/

mutual

/-- Whether a statement is prepared as it stands: texts, outputs of what varies, branches, and loops
over names. -/
def Statement.isSteady : Statement → Bool
  | .text _ => true
  | .output e => e.varies && e.isSteady
  | .branch condition body orElse =>
    condition.isSteady && areSteady body && areSteady orElse
  | .loop target source condition recursive body orElse =>
    !recursive && source.isSteady && condition.isSteady && areSteady body && areSteady orElse &&
      !(target.names ++ assignedInAll body ++ assignedInAll orElse).contains "loop"
  | _ => false

/-- Whether statements are prepared as they stand, and no two texts follow each other. -/
def Statement.areSteady : List Statement → Bool
  | [] => true
  | s :: ss => s.isSteady && areSteady ss && !(s matches .text _ && ss matches .text _ :: _)

end

theorem Standing.prepare_eq_self {e : Expr} (h : e.isSteady) (standing : Standing) :
    standing.prepare table e = pure e := by
  rw [prepare, Expr.prepared_eq_self h]
  rfl

theorem Statement.before_eq_cons {s : Statement} {ss : List Statement}
    (h : !(s matches .text _ && ss matches .text _ :: _)) : s.before ss = s :: ss := by
  rw [before]
  rintro a b rest rfl rfl
  cases h

mutual

/-- A steady statement is prepared as it stands. -/
theorem Statement.prepared_eq_self {s : Statement} (h : s.isSteady) (standing : Standing) :
    s.prepared table standing = pure s := by
  cases s with
  | text _ => rw [prepared]
  | output e =>
    simp only [isSteady, Bool.and_eq_true] at h
    -- no text is known for it, since it has no constant
    have hconstant : e.constantText? table standing.safety = pure Option.none := by
      rw [Expr.constantText?, unlessFaulty_none]
      · rfl
      · rw [OptionT.run_bind, Expr.constant_eq_none h.1]
        rfl
    rw [prepared, hconstant, Standing.prepare_eq_self h.2]
    -- whether a template is extended decides when this is done, but not what it comes to
    cases hyields : standing.yields
    · rfl
    · funext extends?
      cases extends? <;> rfl
  | branch condition body orElse =>
    simp only [isSteady, Bool.and_eq_true] at h
    rw [prepared, Standing.prepare_eq_self h.1.1, pure_bind, preparedAll_eq_self h.1.2, pure_bind,
      preparedAll_eq_self h.2, pure_bind]
  | loop target source condition recursive body orElse =>
    simp only [isSteady, Bool.and_eq_true, Bool.not_eq_true'] at h
    obtain ⟨⟨⟨⟨⟨hrecursive, hsource⟩, hcondition⟩, hbody⟩, hElse⟩, hplace⟩ := h
    rw [prepared, Standing.prepare_eq_self hcondition, pure_bind, hplace, hrecursive]
    simp only [Bool.false_eq_true, if_false]
    rw [Standing.prepare_eq_self hsource, pure_bind, preparedAll_eq_self hbody, pure_bind,
      preparedAll_eq_self hElse, pure_bind]
  | _ => cases h

theorem Statement.preparedAll_eq_self {ss : List Statement} (h : Statement.areSteady ss)
    (standing : Standing) : Statement.preparedAll table standing ss = pure ss := by
  cases ss with
  | nil => rw [preparedAll]
  | cons s ss =>
    simp only [areSteady, Bool.and_eq_true] at h
    rw [preparedAll, prepared_eq_self h.1.1, preparedAll_eq_self h.1.2]
    · rw [pure_bind, pure_bind, before_eq_cons h.2]
      rfl
    · rintro template rfl
      exact absurd h.1.1 (by simp [isSteady])

end

/-- A steady tree without blocks is prepared as it stands. -/
theorem prepared_eq_self {tree : List Statement} (h : Statement.areSteady tree)
    (hblocks : Statement.blocksInAll tree = []) : Prepared.of table tree = pure ⟨tree, []⟩ := by
  simp only [Prepared.of, hblocks, Statement.preparedAll_eq_self h]
  rfl

end MobileSchema.Template
