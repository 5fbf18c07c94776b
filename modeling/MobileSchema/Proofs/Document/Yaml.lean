import MobileSchema.Document.Yaml.Reading
import MobileSchema.Proofs.Answers
import MobileSchema.Proofs.Document.Keys

/-!
# The keys of YAML documents

A map that is read from a YAML document has each text once among its keys (`hasNamesOnce_of_read`).

The value of a document is put together at the very end, from what each of its nodes was read as.
So the property is an invariant of the whole reading, which says of each node that was read as a map
that its keys are different, and of each that was read as a scalar that it is no map (`Sound`).
Nearly all steps read nodes and leave what was noted about them alone; `Construct.Keeps` says that a
step keeps the invariant, and how the steps are put together decides the rest.
-/

namespace MobileSchema.Yaml

/-! ### Scalars -/

variable {α β : Type}

/-- A result that is refused or a value that is no map. -/
def GivesNoMap (result : Except DocumentFault Value) : Prop := ∀ v, result = .ok v → v.IsNoMap

theorem GivesNoMap.error (fault : DocumentFault) : GivesNoMap (.error fault) := by
  intro v h
  cases h

theorem GivesNoMap.ok {v : Value} (h : v.IsNoMap) : GivesNoMap (.ok v) := by
  intro w hw
  cases hw
  exact h

/-- Whatever comes before the last step, the last step decides. -/
theorem GivesNoMap.bind {result : Except DocumentFault α} {next : α → Except DocumentFault Value}
    (h : ∀ a, GivesNoMap (next a)) : GivesNoMap (result >>= next) := by
  cases result with
  | error fault => exact .error fault
  | ok a => exact h a

theorem GivesNoMap.map {result : Except DocumentFault α} {f : α → Value}
    (h : ∀ a, (f a).IsNoMap) : GivesNoMap (result.map f) := by
  cases result with
  | error fault => exact .error fault
  | ok a => exact .ok (h a)

theorem givesNoMap_timeOf (text : List Char) : GivesNoMap (timeOf text) := by
  rw [timeOf]
  split
  · exact .error _
  · split
    · refine .map fun day => ?_
      rintro _ ⟨⟩
    · -- each check may refuse, and behind the last one stands a moment
      have hclose : ∀ m, GivesNoMap (pure (.moment m)) := by
        refine fun m => .ok ?_
        rintro _ ⟨⟩
      dsimp only
      repeat' first | exact hclose _ | refine .bind fun _ => ?_ | split

/-- Whatever its tag says, a scalar is no mapping. -/
theorem givesNoMap_readScalar (tag : Tag) (codes : List Nat) :
    GivesNoMap (Construct.readScalar tag codes) := by
  rw [Construct.readScalar]
  split
  · cases tag
    all_goals first
      | exact .error _
      | exact givesNoMap_timeOf _
      | refine .ok ?_; rintro _ ⟨⟩
      | refine .map fun _ => ?_; rintro _ ⟨⟩
  · cases tag
    all_goals first
      | exact .error _
      | refine .ok ?_; rintro _ ⟨⟩

/-! ### What nodes are read as -/

/-- No map, or a map that has each text once among its keys. -/
def Made.HasNamesOnce : Made → Prop
  | .scalar value _ => value.IsNoMap
  | .map entries => Value.NamesOnce (entries.map (·.1))
  | _ => True

/-- Whether all that nodes have been read as has each text once among its keys. -/
def Sound (made : Array (Option Made)) : Prop :=
  ∀ (id : Nat) m, made[id]? = some (some m) → m.HasNamesOnce

namespace Construct

variable {P : α → Prop} {Q : β → Prop} {a : Construct α}

/-- A step after which the maps still have each text once, and whose result has a property. -/
def Keeps (P : α → Prop) (a : Construct α) : Prop :=
  ∀ s x s', a.run s = .ok (x, s') → Sound s.made → Sound s'.made ∧ P x

theorem Keeps.pure {x : α} (h : P x) : Keeps P (pure x : Construct α) := by
  intro s x s' hrun hs
  cases hrun
  exact ⟨hs, h⟩

theorem Keeps.throw (fault : DocumentFault) : Keeps P (throw fault : Construct α) := by
  intro s x s' hrun hs
  cases hrun

/-- What each of two steps keeps, both keep after each other. -/
theorem Keeps.bind {next : α → Construct β} (h : Keeps P a) (hnext : ∀ x, P x → Keeps Q (next x)) :
    Keeps Q (a >>= next) := by
  intro s y s' hrun hs
  rw [StateT.run_bind] at hrun
  cases hfirst : a.run s with
  | error fault =>
    rw [hfirst] at hrun
    cases hrun
  | ok done =>
    obtain ⟨x, middle⟩ := done
    rw [hfirst] at hrun
    obtain ⟨hmiddle, hx⟩ := h s x middle hfirst hs
    exact hnext x hx middle y s' hrun hmiddle

/-- What would follow a step that refuses does not matter. -/
theorem Keeps.throw_bind (fault : DocumentFault) (next : α → Construct β) :
    Keeps Q (MonadExcept.throw fault >>= next) :=
  (Keeps.throw (P := fun _ => False) fault).bind fun _ => False.elim

theorem Keeps.imp {P' : α → Prop} (h : Keeps P a) (himp : ∀ x, P x → P' x) : Keeps P' a :=
  fun s x s' hrun hs => ⟨(h s x s' hrun hs).1, himp x (h s x s' hrun hs).2⟩

/-- What each step of a pass keeps, the whole pass keeps. -/
theorem keeps_foldlM {step : α → β → Construct α} {bs : List β}
    (h : ∀ x b, P x → Keeps P (step x b)) {x : α} (hx : P x) : Keeps P (bs.foldlM step x) := by
  induction bs generalizing x with
  | nil => exact .pure hx
  | cons b bs ih =>
    rw [List.foldlM_cons]
    exact (h x b hx).bind fun _ hnext => ih hnext

theorem keeps_get : Keeps (fun _ => True) (get : Construct Construction) := by
  intro s x s' hrun hs
  cases hrun
  exact ⟨hs, trivial⟩

theorem keeps_modify {f : Construction → Construction} (h : ∀ s, (f s).made = s.made) :
    Keeps (fun _ => True) (modify f : Construct Unit) := by
  intro s x s' hrun hs
  cases hrun
  exact ⟨(h s).symm ▸ hs, trivial⟩

/-- What is noted for a node has to have its names once. -/
theorem keeps_note {id : Nat} {m : Made} (h : m.HasNamesOnce) :
    Keeps (fun _ => True) (note id m) := by
  intro s x s' hrun hs
  cases hrun
  refine ⟨?_, trivial⟩
  dsimp only
  intro other m' hother
  rw [Array.getElem?_setIfInBounds] at hother
  split at hother
  · split at hother
    · cases hother
      exact h
    · cases hother
  · exact hs other m' hother

theorem keeps_readScalar (tag : Tag) (codes : List Nat) :
    Keeps Value.IsNoMap (liftM (readScalar tag codes) : Construct Value) := by
  intro s x s' hrun hs
  cases hread : readScalar tag codes with
  | error fault =>
    rw [hread] at hrun
    cases hrun
  | ok value =>
    rw [hread] at hrun
    cases hrun
    exact ⟨hs, givesNoMap_readScalar tag codes _ hread⟩

theorem keeps_nodeAt (id : Nat) : Keeps (fun _ => True) (nodeAt id) := by
  rw [nodeAt]
  refine keeps_get.bind fun s _ => ?_
  split
  · exact .pure trivial
  · exact .throw _

theorem keeps_scalarCodes (fuel id : Nat) : Keeps (fun _ => True) (scalarCodes fuel id) := by
  induction fuel generalizing id with
  | zero =>
    rw [scalarCodes]
    exact .throw _
  | succ fuel ih =>
    rw [scalarCodes]
    refine (keeps_nodeAt id).bind fun node _ => ?_
    split
    · exact .pure trivial
    · exact .pure trivial
    · exact .throw _
    · refine keeps_get.bind fun s _ => ?_
      dsimp only
      split
      · exact ih _
      · exact .throw _

theorem keeps_visit (id : Nat) : Keeps (fun _ => True) (visit id) := by
  rw [visit]
  refine keeps_get.bind fun s _ => ?_
  dsimp only
  split
  · exact .pure trivial
  · refine (keeps_nodeAt id).bind fun node _ => ?_
    split
    iterate 5
      · exact Keeps.bind (keeps_note trivial) fun _ _ => keeps_modify fun _ => rfl
    · split
      · exact .throw_bind _ _
      · refine (keeps_scalarCodes _ id).bind fun codes _ => ?_
        split
        · exact .throw _
        · refine (keeps_readScalar _ codes).bind fun value hvalue => keeps_note ?_
          exact hvalue

theorem keeps_forM_visit (ids : List Nat) : Keeps (fun _ => True) (ids.forM visit) := by
  induction ids with
  | nil => exact .pure trivial
  | cons id ids ih => exact (keeps_visit id).bind fun _ _ => ih

theorem keeps_entriesOf (id : Nat) : Keeps (fun _ => True) (entriesOf id) := by
  rw [entriesOf]
  refine (keeps_nodeAt id).bind fun node _ => ?_
  split
  · exact .pure trivial
  · exact .throw _

theorem keeps_setEntries (id : Nat) (entries : List (Nat × Nat)) :
    Keeps (fun _ => True) (setEntries id entries) := by
  rw [setEntries]
  refine (keeps_nodeAt id).bind fun node _ => ?_
  split
  · exact keeps_modify fun _ => rfl
  · exact .throw _

theorem keeps_mergedItems {fuel : Nat}
    (h : ∀ less < fuel, ∀ id, Keeps (fun _ => True) (expandMerges less id)) (items : List Nat) :
    Keeps (fun _ => True) (mergedItems fuel items) := by
  induction items with
  | nil =>
    rw [mergedItems]
    exact .pure trivial
  | cons item items ih =>
    rw [mergedItems.eq_def]
    have hrest : Keeps (fun _ => True) (do
        let entries ← entriesOf item
        return (← mergedItems fuel items) ++ entries) :=
      (keeps_entriesOf item).bind fun _ _ => ih.bind fun _ _ => .pure trivial
    cases fuel with
    | zero => exact hrest
    | succ fuel => exact (h fuel (Nat.lt_succ_self fuel) item).bind fun _ _ => hrest

theorem keeps_takeMerges {fuel : Nat}
    (h : ∀ less < fuel, ∀ id, Keeps (fun _ => True) (expandMerges less id)) (id : Nat)
    (kept entries : List (Nat × Nat)) : Keeps (fun _ => True) (takeMerges fuel id kept entries) := by
  induction entries generalizing kept with
  | nil =>
    rw [takeMerges]
    exact .pure trivial
  | cons entry entries ih =>
    obtain ⟨key, value⟩ := entry
    rw [takeMerges]
    refine (keeps_nodeAt key).bind fun keyNode _ => ?_
    split
    · refine (keeps_setEntries id _).bind fun _ _ => ?_
      -- whatever is merged, the entries behind it are gone through as before
      have hmerged : ∀ merged : List (Nat × Nat), Keeps (fun _ => True) (do
          return merged ++ (← takeMerges fuel id kept entries)) :=
        fun merged => (ih kept).bind fun _ _ => .pure trivial
      refine (keeps_nodeAt value).bind fun node _ => ?_
      split
      · cases fuel with
        | zero => exact (keeps_entriesOf value).bind fun merged _ => hmerged merged
        | succ fuel =>
          -- a mapping that is merged has its own merges taken up first, at a lower bound
          refine (h fuel (Nat.lt_succ_self fuel) value).bind fun _ _ => ?_
          exact (keeps_entriesOf value).bind fun merged _ => hmerged merged
      · exact (keeps_mergedItems h _).bind fun merged _ => hmerged merged
      · exact .throw_bind _ _
    · refine Keeps.bind (keeps_modify ?_) fun _ _ => ih _
      exact fun _ => rfl
    · exact ih _

/-- Expanding merge keys only rewrites the entries of nodes; what was made of other nodes stays. -/
theorem keeps_expandMerges (fuel id : Nat) : Keeps (fun _ => True) (expandMerges fuel id) := by
  induction fuel using Nat.strongRecOn generalizing id with
  | ind fuel ih =>
    rw [expandMerges.eq_def]
    cases fuel with
    | zero => exact .pure trivial
    | succ fuel =>
      refine (keeps_entriesOf id).bind fun entries _ => ?_
      have htake := keeps_takeMerges (fun less hless => ih less (Nat.lt_succ_of_lt hless))
      refine (htake id [] entries).bind fun merged _ => ?_
      split
      · exact (keeps_entriesOf id).bind fun _ _ => keeps_setEntries id _
      · exact .pure trivial

/-- A key that is made again takes the place of the one before. -/
theorem namesOnce_insertMade {entries : List (MadeKey × Nat)}
    (h : Value.NamesOnce (entries.map (·.1.value))) (key : MadeKey) (id : Nat) :
    Value.NamesOnce ((insertMade entries key id).map (·.1.value)) := by
  refine Value.namesOnce_insert MadeKey.value ?_ h key id
  intro k l name hk hl
  rw [MadeKey.same, hk, hl, Value.same_text]
  rfl

/-- The entries that are made of a mapping have each name once. -/
theorem keeps_readEntries (id : Nat) :
    Keeps (fun entries => Value.NamesOnce (entries.map (·.1))) (readEntries id) := by
  rw [readEntries]
  refine keeps_get.bind fun s _ => (keeps_nodeAt id).bind fun node _ => ?_
  dsimp only
  split
  · refine (keeps_expandMerges _ id).bind fun _ _ => (keeps_entriesOf id).bind fun entries _ => ?_
    refine Keeps.bind (P := fun made => Value.NamesOnce (made.map (·.1.value))) ?_ ?_
    · refine keeps_foldlM ?_ .nil
      rintro map ⟨key, value⟩ hmap
      refine (keeps_visit key).bind fun _ _ => keeps_get.bind fun s _ => ?_
      split
      · exact (keeps_visit value).bind fun _ _ => .pure (namesOnce_insertMade hmap _ value)
      · exact .throw _
    · intro made hmade
      refine .pure ?_
      rw [List.map_map]
      exact hmade
  · exact .throw_bind _ _

theorem keeps_readPairs (items : List Nat) : Keeps (fun _ => True) (readPairs items) := by
  induction items with
  | nil => exact .pure trivial
  | cons item items ih =>
    rw [readPairs, List.mapM_cons]
    refine Keeps.bind (P := fun _ => True) ?_ fun pair _ => ih.bind fun _ _ => .pure trivial
    refine (keeps_nodeAt item).bind fun node _ => ?_
    split
    · exact (keeps_visit _).bind fun _ _ => (keeps_visit _).bind fun _ _ => .pure trivial
    · exact .throw _

theorem keeps_readParts (id : Nat) : Keeps (fun _ => True) (readParts id) := by
  rw [readParts]
  refine (keeps_nodeAt id).bind fun node _ => ?_
  split
  · exact (keeps_forM_visit _).bind fun _ _ => keeps_note trivial
  iterate 2
    · exact (keeps_readPairs _).bind fun pairs _ => keeps_note trivial
  · exact (keeps_readEntries id).bind fun entries hentries => keeps_note hentries
  · exact (keeps_readEntries id).bind fun entries _ => keeps_note trivial
  · exact .throw _

/-- Whatever is still to be made, all mappings that are made have their names once. -/
theorem keeps_readQueue (fuel : Nat) : Keeps (fun _ => True) (readQueue fuel) := by
  induction fuel with
  | zero =>
    rw [readQueue]
    exact .pure trivial
  | succ fuel ih =>
    rw [readQueue]
    refine keeps_get.bind fun s _ => ?_
    split
    · exact .pure trivial
    · refine Keeps.bind (keeps_modify ?_) fun _ _ => (keeps_readParts _).bind fun _ _ => ih
      exact fun _ => rfl

end Construct

/-! ### The value of a YAML document -/

/-- Putting values in the places of entries leaves the keys as they are. -/
theorem keys_assembleEntries (made : Array (Option Made)) (fuel : Nat)
    (entries : List (Value × Nat)) (s : Array Assembly) :
    ((assembleEntries made (fuel + 1) entries).run s).1.map (·.1) = entries.map (·.1) := by
  induction entries generalizing s with
  | nil =>
    rw [assembleEntries]
    rfl
  | cons entry entries ih =>
    rw [assembleEntries]
    exact congrArg (entry.1 :: ·) (ih _)

/-- The entries of a map are put together with the keys that were read, or they are cut off. -/
theorem namesOnce_assembleEntries {made : Array (Option Made)} {entries : List (Value × Nat)}
    (h : Value.NamesOnce (entries.map (·.1))) (fuel : Nat) (s : Array Assembly) :
    Value.NamesOnce (((assembleEntries made fuel entries).run s).1.map (·.1)) := by
  cases fuel with
  | zero =>
    rw [assembleEntries.eq_def]
    cases entries with
    | nil => exact .nil
    | cons entry entries => exact .nil
  | succ fuel =>
    rw [keys_assembleEntries]
    exact h

/-- A value that is put together from sound parts has its names once. -/
theorem hasNamesOnce_assemble {made : Array (Option Made)} (h : Sound made) (fuel id : Nat)
    {s : Array Assembly} (hs : ∀ value, s[id]? ≠ some (.done value)) :
    ((assemble made fuel id).run s).1.HasNamesOnce := by
  rw [assemble.eq_def]
  cases fuel with
  | zero => exact Value.hasNamesOnce_null
  | succ fuel =>
    simp only [StateT.run_bind, StateT.run_get, pure_bind]
    split
    · next value hdone => exact absurd hdone (hs value)
    · simp only [StateT.run_bind, StateT.run_modify, pure_bind]
      split
      · next value _ hmade => exact (h id _ hmade).hasNamesOnce
      · rintro _ ⟨⟩
      · rintro _ ⟨⟩
      · rintro _ ⟨⟩
      · next entries hmade =>
        rintro _ hmap
        cases hmap
        exact namesOnce_assembleEntries (h id _ hmade) fuel _
      · exact Value.hasNamesOnce_null
    · exact Value.hasNamesOnce_null

/-- A map that is read has each text once among its keys. -/
theorem hasNamesOnce_of_read {room : Nat} {text : List Char} {v : Value}
    (h : read room text = .ok v) :
    v.HasNamesOnce := by
  rw [read] at h
  obtain ⟨⟨root, nodes⟩, -, h⟩ := bind_eq_ok.1 h
  cases root with
  | none =>
    cases h
    exact Value.hasNamesOnce_null
  | some root =>
    obtain ⟨⟨_, s⟩, hrun, h⟩ := bind_eq_ok.1 h
    cases h
    have hreading : Construct.Keeps (fun _ => True) (do
        Construct.visit root
        Construct.readQueue (nodes.size + 1)) :=
      (Construct.keeps_visit root).bind fun _ _ => Construct.keeps_readQueue _
    -- at the start nothing has been read, and nothing has been put together
    have hstart : Sound (Array.replicate nodes.size none) := by
      intro id m hm
      simp [Array.getElem?_replicate] at hm
    refine hasNamesOnce_assemble (hreading _ _ _ hrun hstart).1 _ root fun value hvalue => ?_
    simp [Array.getElem?_replicate] at hvalue

end MobileSchema.Yaml
