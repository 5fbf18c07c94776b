import MobileSchema.Proofs.Template.BundledTree
import MobileSchema.Proofs.Template.Looping

/-!
# What statements write

`Writes` says that statements come to a text, wherever they are run behind a state, and leave their
scope as it is.  There is a rule for each statement that the bundled templates are made of, and the
texts of statements that follow each other are put together by `Writes.append`.
-/

namespace MobileSchema.Template

variable {context : Context} {base : State} {known : List String} {scope : Scope}
  {ss ts body : List Statement} {e : Expr} {o : Object} {s written more : String}

/-- What statements write one after another is what the first of them write and then the others. -/
theorem runAll_append :
    Statement.runAll context known scope (ss ++ ts) = (do
      let (first, scope) ← Statement.runAll context known scope ss
      let (more, scope) ← Statement.runAll context known scope ts
      return (first ++ more, scope)) := by
  induction ss generalizing scope with
  | nil => simp [Statement.runAll]
  | cons s ss ih => simp [Statement.runAll, ih, bind_assoc]

theorem join_flatMap {α : Type} (xs : List α) (texts : α → List String) :
    String.join (xs.flatMap texts) = String.join (xs.map fun x => String.join (texts x)) := by
  induction xs with
  | nil => rfl
  | cons x xs ih => simp [ih]

/-- Whether an act comes to a list with some items, which stays. -/
def ComesToList (base : State) (a : Act Object) (items : List Object) : Prop :=
  ∀ st, base.GrowsTo st → ∃ r later, a.run.run st = (.ok (.list r), later) ∧ st.GrowsTo later ∧
    later.Holds r items

/-- Whether statements write a text and leave their scope as it is. -/
def Writes (context : Context) (base : State) (known : List String) (scope : Scope)
    (ss : List Statement) (written : String) : Prop :=
  ∃ texts : List String, String.join texts = written ∧
    Comes base (Statement.runAll context known scope ss) (texts.map .text, scope)

namespace Writes

/-- What statements write behind each other is what they write, behind each other. -/
theorem append (h : Writes context base known scope ss written)
    (h' : Writes context base known scope ts more) :
    Writes context base known scope (ss ++ ts) (written ++ more) := by
  obtain ⟨first, rfl, hfirst⟩ := h
  obtain ⟨second, rfl, hsecond⟩ := h'
  refine ⟨first ++ second, by simp, ?_⟩
  rw [runAll_append, List.map_append]
  exact hfirst.bind (hsecond.bind (.pure _))

theorem nil : Writes context base known scope [] "" :=
  ⟨[], rfl, .pure _⟩

/-- A statement writes the texts that its run comes to. -/
theorem one {t : Statement} (texts : List String)
    (h : Comes base (t.run context known scope) (texts.map .text, scope)) :
    Writes context base known scope [t] (String.join texts) := by
  refine ⟨texts, rfl, ?_⟩
  have hall := h.bind (f := fun (first, scope) => do
    let (more, scope) ← Statement.runAll context known scope []
    return (first ++ more, scope)) (.pure _)
  rw [List.append_nil] at hall
  exact hall

theorem oneText {t : Statement} (h : Comes base (t.run context known scope) ([.text s], scope)) :
    Writes context base known scope [t] s := by
  have hone := one [s] h
  simpa using hone

theorem text (hyields : scope.yields = false) (s : String) :
    Writes context base known scope [.text s] s := by
  apply oneText
  rw [Statement.run, hyields]
  exact .pure _

theorem writing (hyields : scope.yields = false) (lines : List String) :
    Writes context base known scope (Template.writing lines) (textOfLines lines) := by
  rw [Template.writing]
  split
  · next h =>
    rw [h]
    exact nil
  · exact text hyields _

/-- An expression that comes to a text writes it. -/
theorem output (hsafety : context.safety = {}) (hyields : scope.yields = false)
    (he : Comes base (e.value context scope) (.text s)) :
    Writes context base known scope [.output e] s := by
  apply oneText
  rw [Statement.run, hyields, Context.escapes, hsafety]
  exact he.bind (.pure _)

/-- A branch writes what its body writes if its condition holds, and nothing otherwise. -/
theorem branch {condition : Bool} (he : Comes base (e.value context scope) o)
    (ho : Comes base (truthOf o) condition)
    (hbody : condition = true → Writes context base known scope body written) :
    Writes context base known scope [.branch e body []] (if condition then written else "") := by
  cases condition with
  | false =>
    refine one [] ?_
    rw [Statement.run]
    exact he.bind (ho.bind (.pure _))
  | true =>
    obtain ⟨texts, rfl, htexts⟩ := hbody rfl
    refine one texts ?_
    rw [Statement.run]
    exact he.bind (ho.bind htexts)

/-- A loop over a list writes what its body writes for each of the items. -/
theorem loop {α : Type} {make : α → Object} {xs : List α} {name : String}
    {writtenFor : α → String} (he : ComesToList base (e.value context scope) (xs.map make))
    (hplain : plainBody name body)
    (hbody : ∀ x ∈ xs, Writes context base
      (known ++ [name] ++ Statement.scopeNamesOfAll body) (scope.inLoop name (make x)) body
      (writtenFor x)) :
    Writes context base known scope [loopOver name e body] (String.join (xs.map writtenFor)) := by
  -- what the body writes for an item is the same wherever it is run, so it is chosen first
  have hchoice : ∀ x, ∃ texts : List String, x ∈ xs → String.join texts = writtenFor x ∧
      Comes base (Statement.runAll context (known ++ [name] ++ Statement.scopeNamesOfAll body)
        (scope.inLoop name (make x)) body) (texts.map .text, scope.inLoop name (make x)) := by
    intro x
    by_cases hx : x ∈ xs
    · obtain ⟨texts, htexts⟩ := hbody x hx
      exact ⟨texts, fun _ => htexts⟩
    · exact ⟨[], fun h => absurd h hx⟩
  obtain ⟨textsFor, htexts⟩ := Classical.skolem.1 hchoice
  have hjoin : String.join (xs.flatMap textsFor) = String.join (xs.map writtenFor) := by
    rw [join_flatMap]
    exact congrArg String.join (List.map_congr_left fun x hx => (htexts x hx).1)
  rw [← hjoin]
  refine one _ ?_
  intro st hst
  obtain ⟨r, mid, hr, hmid, hitems⟩ := he st hst
  -- asking for the list can have made it, so the body is run behind a later state
  have hbodies : ∀ x ∈ xs, Comes mid (do return (← Statement.runAll context
      (known ++ [name] ++ Statement.scopeNamesOfAll body) (scope.inLoop name (make x)) body).1)
      ((textsFor x).map .text) := by
    intro x hx
    exact ((htexts x hx).2.mono (hst.trans hmid)).bind (.pure _)
  have hturns : Comes mid (turns context known scope
      ⟨context.surroundings known scope, .name name, .bool true, body, []⟩ false 0 (.list r)
      (fun known scope => do return (← Statement.runAll context known scope body).1)
      (fun known scope => do return (← Statement.runAll context known scope []).1))
      (xs.flatMap fun x => (textsFor x).map .text) :=
    .turns rfl rfl hplain hitems hbodies fun _ _ => .pure _
  obtain ⟨later, hlater, hgrows⟩ := hturns mid (.refl mid)
  refine ⟨later, ?_, hmid.trans hgrows⟩
  rw [loopOver, Statement.run, run_bind hr]
  simp only [Bool.false_eq_true, if_false]
  rw [run_bind hlater, List.map_flatMap]
  rfl

end Writes

end MobileSchema.Template
