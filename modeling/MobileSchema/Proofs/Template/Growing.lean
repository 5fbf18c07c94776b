import MobileSchema.Template.Evaluation

/-!
# Acts that change nothing that counts

A template that only reads leaves the graph as it is, but not the state: it makes lists and loops.
`State.GrowsTo` says that nothing else happens, and that what was there stays as it was.

`Comes base a v` says that an act comes to `v` wherever it is run behind a state, and lets the state
only grow.  As that holds behind all later states as well, what acts come to can be put together
without a look at the states between them (`Comes.bind`).
-/

namespace MobileSchema.Template

/-! ### States that grow -/

/-- Whether a state comes from another by nothing but new lists and loops. -/
structure State.GrowsTo (st later : State) : Prop where
  graph : later.graph = st.graph
  log : later.log = st.log
  renderings : later.renderings = st.renderings
  lists : st.lists <+: later.lists
  loops : st.loops <+: later.loops

namespace State.GrowsTo

variable {st later last : State}

theorem refl (st : State) : st.GrowsTo st :=
  ⟨rfl, rfl, rfl, List.prefix_refl _, List.prefix_refl _⟩

theorem trans (h : st.GrowsTo later) (h' : later.GrowsTo last) : st.GrowsTo last where
  graph := h'.graph.trans h.graph
  log := h'.log.trans h.log
  renderings := h'.renderings.trans h.renderings
  lists := h.lists.trans h'.lists
  loops := h.loops.trans h'.loops

/-- What may happen to a loop that is not there yet. -/
theorem modify (h : st.GrowsTo later) {i : Nat} (hi : st.loops.length ≤ i) (f : Loop → Loop) :
    st.GrowsTo { later with loops := later.loops.modify i f } := by
  refine ⟨h.graph, h.log, h.renderings, h.lists, ?_⟩
  rw [List.prefix_iff_eq_take, List.take_modify, List.modify_eq_self]
  · exact List.prefix_iff_eq_take.1 h.loops
  · exact Nat.le_trans (List.length_take_le _ _) hi

end State.GrowsTo

/-- What stands in a list is found there when the list has become longer. -/
theorem getElem?_of_grows {α : Type} {xs ys : List α} (h : xs <+: ys) {i : Nat} {x : α}
    (hx : xs[i]? = some x) : ys[i]? = some x := by
  obtain ⟨more, rfl⟩ := h
  obtain ⟨hi, -⟩ := List.getElem?_eq_some_iff.1 hx
  rw [List.getElem?_append_left hi]
  exact hx

/-! ### What acts come to -/

section Acts

variable {α β : Type} {base st later : State} {a : Act α} {f : α → Act β} {v : α} {w : β}

/-- Two acts behind each other, state by state. -/
theorem run_bind_eq (a : Act α) (f : α → Act β) (st : State) :
    (a >>= f).run.run st = match a.run.run st with
      | (.ok v, later) => (f v).run.run later
      | (.error fault, later) => (.error fault, later) := by
  simp only [ExceptT.run_bind, StateT.run_bind]
  rcases a.run.run st with ⟨_ | _, later⟩ <;> rfl

/-- After an act that succeeds, the next one starts where it ended. -/
theorem run_bind (h : a.run.run st = (.ok v, later)) :
    (a >>= f).run.run st = (f v).run.run later := by
  rw [run_bind_eq, h]

/-- After an act that is refused, nothing more is done. -/
theorem run_bind_error {fault : RenderFault} (h : a.run.run st = (.error fault, later)) :
    (a >>= f).run.run st = (.error fault, later) := by
  rw [run_bind_eq, h]

/-- What is computed for an attribute is missing if the computation comes to a lacking one. -/
theorem run_unlessLacking_eq (a : Act Object) (st : State) :
    (unlessLacking a).run.run st = match a.run.run st with
      | (.ok o, later) => (.ok (some o), later)
      | (.error fault, later) =>
        (if fault.isLack then .ok none else .error fault, later) := by
  have hact : a st = a.run.run st := rfl
  simp only [unlessLacking, tryCatch, tryCatchThe, MonadExceptOf.tryCatch, ExceptT.tryCatch,
    ExceptT.run, ExceptT.mk, ExceptT.bind, StateT.run, StateT.bind, bind]
  rcases h : a st with ⟨fault | o, later⟩
  · -- the fault is raised again unless it is a lack
    have hpure {γ : Type} (x : γ) : (pure x : StateM State γ) later = (x, later) := rfl
    simp only [ExceptT.bindCont, hpure]
    cases fault.isLack with
    | false => rfl
    | true => rfl
  · rfl

/-- Whether an act comes to a value wherever it is run behind a state, and only lets the state
grow. -/
def Comes (base : State) (a : Act α) (v : α) : Prop :=
  ∀ st, base.GrowsTo st → ∃ later, a.run.run st = (.ok v, later) ∧ st.GrowsTo later

namespace Comes

theorem pure (v : α) : Comes base (pure v) v :=
  fun st _ => ⟨st, rfl, .refl st⟩

/-- What comes to something one after another comes to it. -/
theorem bind (ha : Comes base a v) (hf : Comes base (f v) w) : Comes base (a >>= f) w := by
  intro st hst
  obtain ⟨mid, hmid, hgrows⟩ := ha st hst
  obtain ⟨last, hlast, hgrows'⟩ := hf mid (hst.trans hgrows)
  exact ⟨last, (run_bind hmid).trans hlast, hgrows.trans hgrows'⟩

theorem mono (ha : Comes base a v) (h : base.GrowsTo later) : Comes later a v :=
  fun st hst => ha st (h.trans hst)

/-- An act that only looks at what stays. -/
theorem look {view : State → α} (h : ∀ st, base.GrowsTo st → view st = v) :
    Comes base (do return view (← get)) v :=
  fun st hst => ⟨st, by rw [← h st hst]; rfl, .refl st⟩

end Comes

end Acts

end MobileSchema.Template
