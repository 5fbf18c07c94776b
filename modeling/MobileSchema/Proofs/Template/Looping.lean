import MobileSchema.Proofs.Template.Growing

/-!
# Loops over lists that stay

A loop looks for its next item in the list as it is by then.  If the list stays as it is, the loop
comes to all its items in turn (`run_rounds`), whatever the body does that only lets the state grow.
The bound on the rounds of a loop is beyond the length of its list, so it is never reached.
-/

namespace MobileSchema.Template

variable {base st : State} {r : ListRef} {items : List Object} {o : Object} {i place : Nat}
  {scope : Scope} {name : String} {body : List Statement}

/-! ### Lists that stay -/

/-- The items of a list in a state. -/
def State.contents (st : State) : ListRef → List Object
  | .models s => (st.graph.schema s).slots.map .ofReference
  | .properties m => (st.graph.model m).slots.map .ofReference
  | .own i => st.lists[i]?.getD []

theorem run_contents (st : State) (r : ListRef) :
    (contents r).run.run st = (.ok (st.contents r), st) := by
  cases r <;> rfl

/-- Whether a list has some items in a state and in all that grow from it. -/
def State.Holds (base : State) (r : ListRef) (items : List Object) : Prop :=
  ∀ st, base.GrowsTo st → st.contents r = items

theorem State.Holds.mono (h : base.Holds r items) (hst : base.GrowsTo st) : st.Holds r items :=
  fun later hlater => h later (hst.trans hlater)

theorem holds_models (base : State) (s : SchemaId) :
    base.Holds (.models s) ((base.graph.schema s).slots.map .ofReference) := by
  intro st hst
  show (st.graph.schema s).slots.map Object.ofReference = _
  rw [hst.graph]

theorem holds_properties (base : State) (m : ModelId) :
    base.Holds (.properties m) ((base.graph.model m).slots.map .ofReference) := by
  intro st hst
  show (st.graph.model m).slots.map Object.ofReference = _
  rw [hst.graph]

/-- A list that a template has made stays. -/
theorem holds_own (h : base.lists[i]? = some items) : base.Holds (.own i) items := by
  intro st hst
  show st.lists[i]?.getD [] = items
  rw [getElem?_of_grows hst.lists h]
  rfl

/-- A state with a new list. -/
def State.withList (st : State) (items : List Object) : State :=
  { st with lists := st.lists ++ [items] }

/-- A list that is made is kept behind the others. -/
theorem run_newList (st : State) (items : List Object) :
    (newList items).run.run st = (.ok (.list (.own st.lists.length)), st.withList items) := rfl

theorem State.growsTo_withList (st : State) (items : List Object) :
    st.GrowsTo (st.withList items) :=
  ⟨rfl, rfl, rfl, List.prefix_append _ _, List.prefix_refl _⟩

theorem State.holds_withList (st : State) (items : List Object) :
    (st.withList items).Holds (.own st.lists.length) items :=
  holds_own List.getElem?_concat_length

/-! ### One step of a loop -/

/-- A state with a change to a loop. -/
def State.updateLoop (st : State) (i : Nat) (f : Loop → Loop) : State :=
  { st with loops := st.loops.modify i f }

theorem State.loops_updateLoop_self {loop : Loop} (h : st.loops[i]? = some loop)
    (f : Loop → Loop) : (st.updateLoop i f).loops[i]? = some (f loop) := by
  rw [updateLoop, List.getElem?_modify_eq, h]
  rfl

theorem run_updateLoop (st : State) (i : Nat) (f : Loop → Loop) :
    (updateLoop i f).run.run st = (.ok (), st.updateLoop i f) := rfl

theorem run_loopAt {loop : Loop} (h : st.loops[i]? = some loop) :
    (loopAt i).run.run st = (.ok loop, st) := by
  show (Except.ok (st.loops[i]?.getD _), st) = _
  rw [h]
  rfl

/-- What is to come in a list behind what is found at a place. -/
def upcomingBehind (r : ListRef) (place : Nat) : Option Object → Upcoming
  | some _ => .live r (place + 1)
  | none => .fixed []

/-- One step along a list takes what is at the place, if anything is. -/
theorem run_step (st : State) (r : ListRef) (place : Nat) :
    (Upcoming.live r place).step.run.run st =
      (.ok ((st.contents r)[place]?, upcomingBehind r place (st.contents r)[place]?), st) := by
  rw [Upcoming.step, run_bind (run_contents st r)]
  cases (st.contents r)[place]? <;> rfl

/-- A loop that pulls goes one step along its list. -/
theorem run_pull {loop : Loop} (hloop : st.loops[i]? = some loop)
    (hupcoming : loop.upcoming = .live r place) :
    (Loop.pull i).run.run st = (.ok (st.contents r)[place]?,
      st.updateLoop i ({ · with upcoming := upcomingBehind r place (st.contents r)[place]? })) := by
  rw [Loop.pull, run_bind (run_loopAt hloop), hupcoming, run_bind (run_step st r place),
    run_bind (run_updateLoop st i _)]
  rfl

/-- What a loop finds ahead, before it comes to it. -/
theorem run_peek {loop : Loop} (hloop : st.loops[i]? = some loop)
    (hupcoming : loop.upcoming = .live r place) (hnext : loop.next = none) :
    (Loop.peek i).run.run st = (.ok (st.contents r)[place]?,
      (st.updateLoop i
          ({ · with upcoming := upcomingBehind r place (st.contents r)[place]? })).updateLoop
        i ({ · with next := (st.contents r)[place]? })) := by
  rw [Loop.peek, run_bind (run_loopAt hloop), hnext]
  dsimp only
  rw [run_bind (run_pull hloop hupcoming), run_bind (run_updateLoop _ i _)]
  rfl

/-- Whether a loop over a list stands at a place, and has not looked ahead. -/
def State.LoopAt (st : State) (i : Nat) (r : ListRef) (place : Nat) : Prop :=
  ∃ loop, st.loops[i]? = some loop ∧ loop.upcoming = .live r place ∧ loop.next = none

theorem State.LoopAt.mono {later : State} (h : st.LoopAt i r place) (hst : st.GrowsTo later) :
    later.LoopAt i r place := by
  obtain ⟨loop, hloop, hupcoming, hnext⟩ := h
  exact ⟨loop, getElem?_of_grows hst.loops hloop, hupcoming, hnext⟩

/-- The state in which a loop has gone on to what is found at its place. -/
def State.advanced (st : State) (i : Nat) (r : ListRef) (place : Nat) (o? : Option Object) : State :=
  let peeked := (st.updateLoop i ({ · with upcoming := upcomingBehind r place o? })).updateLoop i
    ({ · with next := o? })
  match o? with
  | none => peeked
  | some o => peeked.updateLoop i fun loop => { loop with
      reached := loop.reached + 1, previous := loop.current, current := some o, next := none }

/-- A round begins with what is at the place, if anything is. -/
theorem run_advance (h : st.LoopAt i r place) :
    (Loop.advance i).run.run st =
      (.ok (st.contents r)[place]?, st.advanced i r place (st.contents r)[place]?) := by
  obtain ⟨loop, hloop, hupcoming, hnext⟩ := h
  rw [Loop.advance, run_bind (run_peek hloop hupcoming hnext)]
  cases (st.contents r)[place]? <;> rfl

/-- What grows up to a loop grows on when the loop goes on. -/
theorem State.GrowsTo.advanced (h : base.GrowsTo st) (hi : base.loops.length ≤ i) (r : ListRef)
    (place : Nat) (o? : Option Object) : base.GrowsTo (st.advanced i r place o?) := by
  cases o? with
  | none => exact (h.modify hi _).modify hi _
  | some o => exact ((h.modify hi _).modify hi _).modify hi _

/-- A round that has begun leaves the loop one place further on. -/
theorem State.LoopAt.advanced (h : st.LoopAt i r place) (o : Object) :
    (st.advanced i r place (some o)).LoopAt i r (place + 1) := by
  obtain ⟨loop, hloop, -, -⟩ := h
  exact ⟨_, State.loops_updateLoop_self (State.loops_updateLoop_self
    (State.loops_updateLoop_self hloop _) _) _, rfl, rfl⟩

/-! ### All rounds of a loop -/

/-- A loop over a list that stays comes to all its items in turn. -/
theorem run_rounds {α : Type} {make : α → Object} {xs : List α}
    {parts : α → List Object} (round : Object → Act (Option (List Object)))
    (hbase : base.loops.length ≤ i) (hitems : base.Holds r (xs.map make))
    (hround : ∀ x ∈ xs, Comes base (round (make x)) (some (parts x))) :
    ∀ (todo done : List α) (limit : Nat) (st : State), xs = done ++ todo →
      base.GrowsTo st → st.LoopAt i r done.length → todo.length < limit →
      ∃ later, (rounds i round limit).run.run st =
        (.ok (if todo = [] then none else some (todo.flatMap parts)), later) ∧
        base.GrowsTo later := by
  -- by induction on what is still ahead: a round moves one item from there to what is done
  intro todo
  induction todo with
  | nil =>
    intro done limit st hsplit hst hloop hlimit
    obtain ⟨limit, rfl⟩ : ∃ n, limit = n + 1 := ⟨limit - 1, by simp at hlimit; omega⟩
    have hend : (st.contents r)[done.length]? = none := by
      rw [hitems st hst, hsplit]
      simp
    have hadvance := run_advance hloop
    rw [hend] at hadvance
    refine ⟨_, ?_, hst.advanced hbase r done.length none⟩
    rw [rounds, run_bind hadvance]
    rfl
  | cons x todo ih =>
    intro done limit st hsplit hst hloop hlimit
    obtain ⟨limit, rfl⟩ : ∃ n, limit = n + 1 := ⟨limit - 1, by simp at hlimit; omega⟩
    have hnext : (st.contents r)[done.length]? = some (make x) := by
      rw [hitems st hst, hsplit]
      simp
    have hadvance := run_advance hloop
    rw [hnext] at hadvance
    have hmid := hst.advanced hbase r done.length (some (make x))
    obtain ⟨mid, hbody, hgrows⟩ := hround x (by simp [hsplit]) _ hmid
    obtain ⟨last, hlast, hgrows'⟩ := ih (done ++ [x]) limit mid (by simp [hsplit])
      (hmid.trans hgrows) (by simpa using (hloop.advanced (make x)).mono hgrows)
      (by simp at hlimit; omega)
    refine ⟨last, ?_, hgrows'⟩
    rw [rounds, run_bind hadvance]
    dsimp only
    rw [run_bind hbody]
    dsimp only
    rw [run_bind hlast]
    cases todo <;> rfl

/-! ### Bodies that only read -/

/-- Whether a body gives values to no names, so that nothing comes into its scope but the names that
are entered. -/
def onlyReads (entered : List String) (body : List Statement) : Bool :=
  (Statement.givenNamesOfAll body).isEmpty && body.all (·.settled.1.isEmpty) &&
    (entered ++ Statement.scopeNamesOfAll body).all (·.toList.all (·.toNat < 128))

/-- Whether the body of a loop over a name only reads and does not ask for the place of the loop. -/
def plainBody (name : String) (body : List Statement) : Bool :=
  !Statement.lookUp body "loop" && (Statement.blocksInAll body).isEmpty && onlyReads [name] body

/-- ASCII names are in no groups, as each of them can be written in one way only. -/
theorem groupsOf_eq_nil {names : List String}
    (h : ∀ name ∈ names, name.toList.all (·.toNat < 128)) : Frame.groupsOf names = [] := by
  have hnone : (names.filter fun name => !name.toList.all (·.toNat < 128) ||
      names.any fun other => !other.toList.all (·.toNat < 128)) = [] := by
    rw [List.filter_eq_nil_iff]
    intro name hname
    simp only [h name hname, Bool.not_true, Bool.false_or, List.any_eq_true, not_exists, not_and]
    intro other hother
    simp [h other hother]
  simp only [Frame.groupsOf]
  rw [hnone]
  rfl

/-- A body that settles nothing hides no names. -/
theorem hiddenNames_eq_nil (h : ∀ s ∈ body, s.settled.1 = []) (known : List String) :
    Statement.hiddenNames known body = [] := by
  induction body generalizing known with
  | nil => rfl
  | cons s ss ih =>
    simp only [Statement.hiddenNames, h s (by simp), List.filter_nil, List.nil_append,
      List.append_nil]
    exact ih (fun s hs => h s (by simp [hs])) _

/-- A body that only reads has nothing in its frame but the names that are entered. -/
theorem frame_of_onlyReads {entered : List String} (h : onlyReads entered body)
    (known : List String) : Frame.of known entered body = ⟨entered, [], []⟩ := by
  simp only [onlyReads, Bool.and_eq_true] at h
  obtain ⟨⟨hgiven, hsettled⟩, hnames⟩ := h
  rw [Frame.of, hiddenNames_eq_nil, groupsOf_eq_nil]
  · intro n hn
    refine List.all_eq_true.1 hnames n ?_
    simp only [List.mem_append, List.mem_filter] at hn ⊢
    exact hn.imp_right And.left
  · intro s hs
    exact List.isEmpty_iff.1 (List.all_eq_true.1 hsettled s hs)

/-- The scope of the body of a loop, in which a name stands for an item. -/
def Scope.inLoop (scope : Scope) (name : String) (o : Object) : Scope :=
  { scope with
    entries := (name, some o) :: scope.entries, groups := [], place := none, isOutermost := false }

/-- Inside a loop, its name stands for the item. -/
theorem Scope.find_inLoop_self (scope : Scope) (name : String) (o : Object) :
    (scope.inLoop name o).find name = o := by
  simp [inLoop, find, find?]

/-- Inside a loop, other names stand for what they stood for. -/
theorem Scope.find_inLoop_of_ne (scope : Scope) {other : String} (h : other ≠ name) (o : Object) :
    (scope.inLoop name o).find other = scope.find other := by
  have hne : (other == name) = false := by simp [h]
  simp [inLoop, find, find?, List.lookup_cons, hne]

/-- In a scope that nothing looks into from elsewhere, a name is given a value without a trace. -/
theorem put_name_eq_pure (hplace : scope.place = none) (houter : scope.isOutermost = false)
    (o : Object) : Target.put scope o (.name name) = pure (scope.put name o) := by
  simp [Target.put, Scope.store, Scope.put, Scope.give, hplace, houter]

/-- What a loop does whose body only reads and does not ask for the place of the loop: it gives its
name to each item in turn and runs the body. -/
theorem turns_plain {context : Context} {known : List String} {code : LoopCode}
    {runBody runElse : List String → Scope → Act (List Object)} {depth : Nat}
    (htarget : code.target = .name name) (hcondition : code.condition = .bool true)
    (hplain : plainBody name code.body) (o : Object) :
    Template.turns context known scope code false depth o runBody runElse = (do
      let upcoming ← upcomingIn o
      let loop ← newLoop {
        upcoming, depth
        length := match upcoming with
          | .fixed items => some items.length
          | _ => none }
      let round (item : Object) : Act (Option (List Object)) := do
        return some (← runBody (known ++ [name] ++ Statement.scopeNamesOfAll code.body)
          (scope.inLoop name item))
      match ← rounds loop round (← upcoming.roundLimit) with
      | some written => return written
      | none =>
        runElse (known ++ Statement.scopeNamesOfAll code.orElse)
          (innerScope known scope code.orElse)) := by
  simp only [plainBody, Bool.and_eq_true] at hplain
  obtain ⟨⟨hloop, hblocks⟩, hreads⟩ := hplain
  -- nobody asks for the place of the loop, so it is not put into the scope
  have hplaced : (false || Statement.lookUp code.body "loop" ||
      (Statement.blocksInAll code.body).any (·.2.1)) = false := by
    rw [List.isEmpty_iff.1 hblocks]
    simpa using hloop
  simp only [Template.turns, hplaced, htarget, hcondition, Target.names, Bool.false_eq_true,
    if_false, List.append_nil, frame_of_onlyReads hreads known, Bool.not_true, Bool.and_false,
    put_name_eq_pure, pure_bind, Expr.value, truthOf]
  rfl

/-- The state in which a loop over a list stands at its start, behind the loops that are there. -/
def State.enteringLoop (st : State) (r : ListRef) (depth : Nat) : State :=
  { st with loops := st.loops ++ [{ upcoming := .live r 0, length := none, depth }] }

theorem State.growsTo_enteringLoop (st : State) (r : ListRef) (depth : Nat) :
    st.GrowsTo (st.enteringLoop r depth) :=
  ⟨rfl, rfl, rfl, List.prefix_refl _, List.prefix_append _ _⟩

theorem State.loopAt_enteringLoop (st : State) (r : ListRef) (depth : Nat) :
    (st.enteringLoop r depth).LoopAt st.loops.length r 0 :=
  ⟨_, List.getElem?_concat_length, rfl, rfl⟩

/-- The rounds of a loop over a list are run in a new loop at its start. -/
theorem run_turns_list {context : Context} {known : List String} {code : LoopCode}
    {runBody runElse : List String → Scope → Act (List Object)} {depth : Nat}
    (htarget : code.target = .name name) (hcondition : code.condition = .bool true)
    (hplain : plainBody name code.body) (st : State) (r : ListRef) :
    (Template.turns context known scope code false depth (.list r) runBody runElse).run.run st =
      (do
        let round (item : Object) : Act (Option (List Object)) := do
          return some (← runBody (known ++ [name] ++ Statement.scopeNamesOfAll code.body)
            (scope.inLoop name item))
        match ← rounds st.loops.length round
          (((st.enteringLoop r depth).contents r).length + growthLimit) with
        | some written => return written
        | none =>
          runElse (known ++ Statement.scopeNamesOfAll code.orElse)
            (innerScope known scope code.orElse)).run.run (st.enteringLoop r depth) := by
  rw [turns_plain htarget hcondition hplain,
    run_bind (show (upcomingIn (.list r)).run.run st = (.ok (.live r 0), st) from rfl)]
  -- the loop is remembered, and then the list is looked up for the number of rounds
  have hnew : (newLoop { upcoming := .live r 0, length := none, depth }).run.run st =
      (.ok st.loops.length, st.enteringLoop r depth) := rfl
  have hlimit : (Upcoming.live r 0).roundLimit.run.run (st.enteringLoop r depth) =
      (.ok (((st.enteringLoop r depth).contents r).length + growthLimit),
        st.enteringLoop r depth) := by
    rw [Upcoming.roundLimit, run_bind (run_contents _ r)]
    rfl
  dsimp only
  rw [run_bind hnew, run_bind hlimit]

/-- A loop over a list that stays writes what its body writes for each of the items. -/
theorem Comes.turns {α : Type} {make : α → Object} {xs : List α} {context : Context}
    {known : List String} {code : LoopCode}
    {runBody runElse : List String → Scope → Act (List Object)} {parts : α → List Object}
    {depth : Nat}
    (htarget : code.target = .name name) (hcondition : code.condition = .bool true)
    (hplain : plainBody name code.body) (hitems : base.Holds r (xs.map make))
    (hbody : ∀ x ∈ xs, Comes base
      (runBody (known ++ [name] ++ Statement.scopeNamesOfAll code.body)
        (scope.inLoop name (make x))) (parts x))
    (helse : ∀ known scope, Comes base (runElse known scope) []) :
    Comes base (Template.turns context known scope code false depth (.list r) runBody runElse)
      (xs.flatMap parts) := by
  let round (item : Object) : Act (Option (List Object)) := do
    return some (← runBody (known ++ [name] ++ Statement.scopeNamesOfAll code.body)
      (scope.inLoop name item))
  -- one round writes what the body writes
  have hround : ∀ x ∈ xs, Comes base (round (make x)) (some (parts x)) :=
    fun x hx => (hbody x hx).bind (.pure _)
  intro st hst
  have hstarted := st.growsTo_enteringLoop r depth
  have hcontents : ((st.enteringLoop r depth).contents r).length = xs.length := by
    rw [hitems _ (hst.trans hstarted), List.length_map]
  -- so all rounds write that one after another, as the list stays what it is
  obtain ⟨later, hrounds, hgrows⟩ := run_rounds round (Nat.le_refl _) (hitems.mono hst)
    (fun x hx => (hround x hx).mono hst) xs [] (xs.length + growthLimit) (st.enteringLoop r depth)
    rfl hstarted (st.loopAt_enteringLoop r depth) (by simp [growthLimit])
  rw [run_turns_list htarget hcondition hplain, hcontents, run_bind hrounds]
  cases xs with
  | nil =>
    obtain ⟨last, hlast, hgrows'⟩ := helse (known ++ Statement.scopeNamesOfAll code.orElse)
      (innerScope known scope code.orElse) later (hst.trans hgrows)
    exact ⟨last, hlast, hgrows.trans hgrows'⟩
  | cons x xs => exact ⟨later, rfl, hgrows⟩

end MobileSchema.Template
