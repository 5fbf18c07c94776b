import MobileSchema.Proofs.Template.Looping

/-!
# Two runs side by side

Two templates of the same shape can be run side by side, statement by statement.  If they ask the
same of the same schema, they are in states that are alike all the way (`State.Alike`), and so both
of them fault with the same fault, or both go on (`Abreast`).  Nothing is said about what an act
comes to, and so nothing has to be known about the schema.

An act that is run beside itself is `Repeats` if it looks at nothing but what is alike.  What is
known of its answer is known of both.
-/

namespace MobileSchema.Template

/-! ### States that are alike -/

/-- Whether two states are alike in what a template that only reads can see of them. -/
structure State.Alike (st st' : State) : Prop where
  graph : st'.graph = st.graph
  renderings : st'.renderings = st.renderings
  lists : st'.lists = st.lists
  loops : st'.loops = st.loops

namespace State.Alike

variable {st st' : State} {r : ListRef} {i place depth : Nat}

/-- Alike states have the same lists. -/
theorem contents (h : st.Alike st') (r : ListRef) : st'.contents r = st.contents r := by
  cases r with
  | models s => exact congrArg (fun g : Graph => (g.schema s).slots.map Object.ofReference) h.graph
  | properties m => exact congrArg (fun g : Graph => (g.model m).slots.map Object.ofReference) h.graph
  | own i => exact congrArg (fun lists : List (List Object) => lists[i]?.getD []) h.lists

/-- Alike states are at the same place of a loop. -/
theorem loopAt (h : st.Alike st') (hloop : st.LoopAt i r place) : st'.LoopAt i r place := by
  rw [LoopAt, h.loops]
  exact hloop

theorem updateLoop (h : st.Alike st') (i : Nat) (f : Loop → Loop) :
    (st.updateLoop i f).Alike (st'.updateLoop i f) :=
  ⟨h.graph, h.renderings, h.lists, congrArg (·.modify i f) h.loops⟩

theorem advanced (h : st.Alike st') (i : Nat) (r : ListRef) (place : Nat) (o? : Option Object) :
    (st.advanced i r place o?).Alike (st'.advanced i r place o?) := by
  cases o? with
  | none => exact (h.updateLoop i _).updateLoop i _
  | some o => exact ((h.updateLoop i _).updateLoop i _).updateLoop i _

theorem withList (h : st.Alike st') (items : List Object) :
    (st.withList items).Alike (st'.withList items) :=
  ⟨h.graph, h.renderings, congrArg (· ++ [items]) h.lists, h.loops⟩

theorem enteringLoop (h : st.Alike st') (r : ListRef) (depth : Nat) :
    (st.enteringLoop r depth).Alike (st'.enteringLoop r depth) :=
  ⟨h.graph, h.renderings, h.lists, congrArg (· ++ _) h.loops⟩

end State.Alike

/-! ### Outcomes that go together -/

variable {α β γ δ : Type} {base st st' later : State} {R : State → α → β → Prop}
  {S : State → γ → δ → Prop} {a : Act α} {b : Act β} {f : α → Act γ} {k : β → Act δ}

/-- Whether two outcomes go together: both are the same fault, or answers that are related.  What is
seen of the states has grown, unless the fault cannot be caught. -/
inductive GoTogether (base : State) (R : State → α → β → Prop) :
    Except RenderFault α × State → Except RenderFault β × State → Prop
  | fault {fault : RenderFault} {later later' : State} (halike : later.Alike later')
    (hgrows : fault.isLack → base.GrowsTo later) :
    GoTogether base R (.error fault, later) (.error fault, later')
  | answer {x : α} {y : β} {later later' : State} (halike : later.Alike later')
    (hgrows : base.GrowsTo later) (h : R later x y) :
    GoTogether base R (.ok x, later) (.ok y, later')

/-- Whether two acts, wherever they are run behind a state and in states that are alike, come to
outcomes that go together. -/
def Abreast (base : State) (R : State → α → β → Prop) (a : Act α) (b : Act β) : Prop :=
  ∀ st st', base.GrowsTo st → st.Alike st' →
    GoTogether st R (a.run.run st) (b.run.run st')

/-- Outcomes that go together go on together.  What comes behind may change what the first acts did,
as long as it keeps what was there before. -/
theorem GoTogether.bind {mid : State} (hmid : base.GrowsTo mid)
    (h : GoTogether mid R (a.run.run st) (b.run.run st'))
    (hnext : ∀ x y later later', later.Alike later' → mid.GrowsTo later → R later x y →
      GoTogether base S ((f x).run.run later) ((k y).run.run later')) :
    GoTogether base S ((a >>= f).run.run st) ((b >>= k).run.run st') := by
  rw [run_bind_eq, run_bind_eq]
  generalize a.run.run st = outcome at h
  generalize b.run.run st' = outcome' at h
  cases h with
  | fault halike hgrows => exact .fault halike fun hlack => hmid.trans (hgrows hlack)
  | answer halike hgrows h => exact hnext _ _ _ _ halike hgrows h

/-- What starts from a state that has grown goes together from where that started. -/
theorem GoTogether.trans {outcome : Except RenderFault α × State}
    {outcome' : Except RenderFault β × State} (hst : base.GrowsTo st)
    (h : GoTogether st R outcome outcome') : GoTogether base R outcome outcome' := by
  cases h with
  | fault halike hgrows => exact .fault halike fun hlack => hst.trans (hgrows hlack)
  | answer halike hgrows h => exact .answer halike (hst.trans hgrows) h

namespace Abreast

theorem mono (h : Abreast base R a b) (hgrows : base.GrowsTo later) : Abreast later R a b :=
  fun st st' hst halike => h st st' (hgrows.trans hst) halike

theorem imp {R' : State → α → β → Prop} (h : Abreast base R a b)
    (himp : ∀ later x y, base.GrowsTo later → R later x y → R' later x y) :
    Abreast base R' a b := by
  intro st st' hst halike
  have hout := h st st' hst halike
  generalize a.run.run st = outcome at hout ⊢
  generalize b.run.run st' = outcome' at hout ⊢
  cases hout with
  | fault halike hgrows => exact .fault halike hgrows
  | answer halike hgrows h => exact .answer halike hgrows (himp _ _ _ (hst.trans hgrows) h)

theorem pure {x : α} {y : β} (h : ∀ later, base.GrowsTo later → R later x y) :
    Abreast base R (pure x) (pure y) :=
  fun st _ hst halike => .answer halike (.refl st) (h st hst)

/-- Two acts that are refused for the same reason go abreast. -/
theorem throw (fault : RenderFault) : Abreast base R (throw fault) (throw fault) :=
  fun st _ _ halike => .fault halike fun _ => .refl st

/-- Acts that are run side by side are so behind each other. -/
theorem bind (h : Abreast base R a b)
    (hnext : ∀ mid x y, base.GrowsTo mid → R mid x y → Abreast mid S (f x) (k y)) :
    Abreast base S (a >>= f) (b >>= k) := by
  intro st st' hst halike
  refine .bind (.refl st) (h st st' hst halike) fun x y mid mid' halike' hgrows hR => ?_
  exact (hnext mid x y (hst.trans hgrows) hR mid mid' (.refl mid) halike').trans hgrows

end Abreast

/-! ### Acts beside themselves -/

/-- Whether an act comes to the same in states that are alike. -/
def Repeats (base : State) (Q : State → α → Prop) (a : Act α) : Prop :=
  Abreast base (fun later x y => y = x ∧ Q later x) a a

namespace Repeats

variable {Q : State → α → Prop} {Q' : State → γ → Prop}

theorem abreast {k : α → Act δ} (h : Repeats base Q a)
    (hnext : ∀ mid x, base.GrowsTo mid → Q mid x → Abreast mid S (f x) (k x)) :
    Abreast base S (a >>= f) (a >>= k) := by
  refine Abreast.bind h fun mid x y hmid hxy => ?_
  obtain ⟨rfl, hQ⟩ := hxy
  exact hnext mid y hmid hQ

/-- What repeats one after another repeats. -/
theorem bind (h : Repeats base Q a)
    (hnext : ∀ mid x, base.GrowsTo mid → Q mid x → Repeats mid Q' (f x)) :
    Repeats base Q' (a >>= f) :=
  h.abreast hnext

theorem imp {Q' : State → α → Prop} (h : Repeats base Q a)
    (himp : ∀ later x, base.GrowsTo later → Q later x → Q' later x) : Repeats base Q' a :=
  Abreast.imp h fun later x _ hlater hxy => ⟨hxy.1, himp later x hlater hxy.2⟩

theorem pure {x : α} (h : ∀ later, base.GrowsTo later → Q later x) : Repeats base Q (pure x) :=
  Abreast.pure fun later hlater => ⟨rfl, h later hlater⟩

theorem throw (fault : RenderFault) : Repeats base Q (throw fault) := Abreast.throw fault

theorem mono (h : Repeats base Q a) (hgrows : base.GrowsTo later) : Repeats later Q a :=
  Abreast.mono h hgrows

/-- What is known of an answer for two reasons is known together. -/
theorem and {Q' : State → α → Prop} (h : Repeats base Q a) (h' : Repeats base Q' a) :
    Repeats base (fun later x => Q later x ∧ Q' later x) a := by
  intro st st' hst halike
  have hout := h st st' hst halike
  have hout' := h' st st' hst halike
  generalize a.run.run st = outcome at hout hout' ⊢
  generalize a.run.run st' = outcome' at hout hout' ⊢
  cases hout with
  | fault halike hgrows => exact .fault halike hgrows
  | answer halike hgrows hxy =>
    cases hout' with
    | answer _ _ hxy' => exact .answer halike hgrows ⟨hxy.1, hxy.2, hxy'.2⟩

/-- Acts on all items of a list, one after another. -/
theorem mapM {f : γ → Act α} {xs : List γ} (h : ∀ x ∈ xs, Repeats base Q (f x)) :
    Repeats base (fun _ _ => True) (xs.mapM f) := by
  induction xs generalizing base with
  | nil => exact pure fun _ _ => trivial
  | cons x xs ih =>
    rw [List.mapM_cons]
    refine (h x (by simp)).bind fun mid _ hmid _ => ?_
    have hrest : ∀ y ∈ xs, Repeats mid Q (f y) := fun y hy => (h y (by simp [hy])).mono hmid
    exact (ih hrest).bind fun _ _ _ _ => pure fun _ _ => trivial

/-- An act that only looks at what is alike. -/
theorem look {view : State → α} (h : ∀ st st', st.Alike st' → view st' = view st)
    (hQ : ∀ later, base.GrowsTo later → Q later (view later)) :
    Repeats base Q (do return view (← get)) :=
  fun st st' hst halike => .answer halike (.refl st) ⟨h st st' halike, hQ st hst⟩

end Repeats

/-! ### Looking at the state -/

theorem repeats_currentGraph : Repeats base (fun _ g => g = base.graph) currentGraph :=
  .look (fun _ _ halike => halike.graph) fun _ hlater => hlater.graph

theorem repeats_renderingAt (i : Nat) :
    Repeats base (fun _ rendering => rendering =
      base.renderings[i]?.getD { template := "", names := [] }) (renderingAt i) :=
  .look (fun _ _ halike => by rw [halike.renderings]) fun _ hlater => by rw [hlater.renderings]

theorem repeats_escapesIn (i : Nat) : Repeats base (fun _ _ => True) (escapesIn i) :=
  (repeats_renderingAt i).bind fun _ _ _ _ => .pure fun _ _ => trivial

/-- Looking into a list finds the same in alike states. -/
theorem repeats_contents (r : ListRef) :
    Repeats base (fun later items => items = later.contents r) (contents r) := by
  intro st st' _ halike
  rw [run_contents, run_contents, halike.contents]
  exact .answer halike (.refl st) ⟨rfl, rfl⟩

/-- A refused answer adds to the log, but then it cannot be caught. -/
theorem repeats_ask (answer : Except SchemaFault α) :
    Repeats base (fun _ x => answer = .ok x) (ask answer) := by
  cases answer with
  | ok x => exact .pure fun _ _ => rfl
  | error fault =>
    intro st st' _ halike
    have hrun : ∀ st : State, (ask (.error fault : Except SchemaFault α)).run.run st =
        (.error (.schema fault), { st with log := st.log ++ fault.log }) := fun _ => rfl
    rw [hrun, hrun]
    refine .fault ⟨halike.graph, halike.renderings, halike.lists, halike.loops⟩ fun hlack => ?_
    cases fault
    case noAttribute => exact ⟨rfl, List.append_nil _, rfl, List.prefix_refl _, List.prefix_refl _⟩
    all_goals cases hlack

/-! ### Lacking attributes -/

/-- What is lacking in one state is lacking in the other. -/
theorem repeats_unlessLacking {a : Act Object} {Q : State → Object → Prop} (h : Repeats base Q a) :
    Repeats base (fun later found => ∀ o, found = some o → Q later o) (unlessLacking a) := by
  intro st st' hst halike
  have hout := h st st' hst halike
  rw [run_unlessLacking_eq, run_unlessLacking_eq]
  generalize a.run.run st = outcome at hout ⊢
  generalize a.run.run st' = outcome' at hout ⊢
  cases hout with
  | answer halike hgrows hxy =>
    obtain ⟨rfl, hQ⟩ := hxy
    exact .answer halike hgrows ⟨rfl, fun o ho => Option.some.inj ho ▸ hQ⟩
  | @fault fault later later' halike hgrows =>
    by_cases hlack : fault.isLack
    · simp only [hlack, if_true]
      exact .answer halike (hgrows hlack) ⟨rfl, nofun⟩
    · simp only [hlack]
      exact .fault halike fun h => absurd h hlack

end MobileSchema.Template
