import MobileSchema.Proofs.Answers
import MobileSchema.Proofs.Schema.Pointing
import Mathlib.Data.List.Basic
import Mathlib.Data.String.Basic

/-!
# What the check reports

`Graph.issues` goes through the lists of a schema and reports by names, while the rules speak of
objects.  So a violation is kept here at its place: `Violation` says which rule is broken by which
entry of which list, `Graph.Violates` says what it means that it is, without looking at the check,
and `Graph.report` is the issue that reports it.

`candidates` lists the places where a rule could be broken in the order in which they are checked,
and `violations` those where one is.  Main results: `mem_violations` (nothing is missed and nothing
is made up), `pairwise_violations` (each once and in order), `issues_eq` (the check comes to the
reports of the violations).
-/

namespace MobileSchema

/-! ### Repeated names -/

theorem nodup_eraseDups (names : List String) : names.eraseDups.Nodup := by
  induction h : names.length using Nat.strong_induction_on generalizing names with
  | _ n ih =>
    cases names with
    | nil => simp
    | cons name names =>
      rw [List.eraseDups_cons, List.nodup_cons]
      refine ⟨by simp, ih _ ?_ _ rfl⟩
      have := List.length_filter_le (fun b => !b == name) names
      simp only [List.length_cons] at h
      omega

/-- Just the names that occur more than once are reported. -/
theorem mem_repeatedNames {names : List String} {name : String} :
    name ∈ (repeatedNames names).map Prod.fst ↔ 1 < names.count name := by
  have hmem : 1 < names.count name → name ∈ names := by
    intro h
    exact List.count_pos_iff.1 (by omega)
  simp only [repeatedNames, List.map_map, List.mem_map, Function.comp_apply, exists_eq_right,
    List.mem_mergeSort, List.mem_filter, List.mem_eraseDups, decide_eq_true_eq]
  exact ⟨And.right, fun h => ⟨hmem h, h⟩⟩

/-- Repeated names come in the order of their characters, each once. -/
theorem pairwise_repeatedNames (names : List String) :
    ((repeatedNames names).map Prod.fst).Pairwise (· < ·) := by
  have hfst : (repeatedNames names).map Prod.fst =
      (names.eraseDups.filter fun name => 1 < names.count name).mergeSort fun a b => a ≤ b := by
    simp [repeatedNames, Function.comp_def]
  rw [hfst]
  have hsorted := @List.pairwise_mergeSort String (fun a b => decide (a ≤ b))
    (fun a b c hab hbc => by simp only [decide_eq_true_eq] at *; exact le_trans hab hbc)
    (fun a b => by simpa using le_total a b)
    (names.eraseDups.filter fun name => 1 < names.count name)
  have hnodup := (List.mergeSort_perm _ fun a b : String => decide (a ≤ b)).nodup_iff.2
    ((nodup_eraseDups names).filter fun name => 1 < names.count name)
  refine (hsorted.and hnodup).imp ?_
  rintro a b ⟨hle, hne⟩
  exact lt_of_le_of_ne (by simpa using hle) hne

theorem count_of_mem_repeatedNames {names : List String} {name : String} {count : Nat}
    (h : (name, count) ∈ repeatedNames names) : count = names.count name := by
  obtain ⟨other, -, heq⟩ := List.mem_map.1 h
  obtain ⟨rfl, rfl⟩ := Prod.mk.inj heq
  rfl

/-! ### Violations -/

/-- A breach of a rule at its place.  The models of the schema are counted by `i`, the properties
of a model by `j`. -/
inductive Violation
  /-- several models have a name -/
  | modelName (name : String)
  /-- several properties of a model have a name -/
  | propertyName (i : Nat) (m : ModelId) (name : String)
  /-- a model lists a property that it does not own -/
  | owner (i : Nat) (m : ModelId) (j : Nat) (p : PropertyId)
  /-- a relation leads out of the schema -/
  | target (i : Nat) (m : ModelId) (j : Nat) (p : PropertyId)
  /-- the target of a backlink does not list the relation that is reversed -/
  | forward (i : Nat) (m : ModelId) (j : Nat) (p : PropertyId)
  /-- the primary key of a model is no typed field -/
  | keySort (i : Nat) (m : ModelId)
  /-- the primary key of a model is a typed field that the model does not list -/
  | keyPlace (i : Nat) (m : ModelId)

/-- The place of a violation in the order of the reports: first the models' names, then model by
model the names of its properties, its properties one by one, and its primary key.  Violations of
equal number are told apart by the name. -/
def Violation.outline : Violation → List Nat × String
  | modelName name => ([0], name)
  | propertyName i _ name => ([1, i, 0], name)
  | owner i _ j _ => ([1, i, 1, j, 0], "")
  | target i _ j _ => ([1, i, 1, j, 1], "")
  | forward i _ j _ => ([1, i, 1, j, 2], "")
  | keySort i _ => ([1, i, 2], "")
  | keyPlace i _ => ([1, i, 3], "")

/-- Whether a violation is reported before another. -/
def Violation.Before (v w : Violation) : Prop :=
  v.outline.1 < w.outline.1 ∨ v.outline.1 = w.outline.1 ∧ v.outline.2 < w.outline.2

/-- No violation comes before itself. -/
theorem Violation.Before.ne {v w : Violation} (h : v.Before w) : v ≠ w := by
  rintro rfl
  rcases h with h | ⟨_, h⟩
  · exact List.lt_irrefl _ h
  · exact lt_irrefl _ h

theorem Violation.before_of_lt {v w : Violation} {a b : List Nat} {x y : String}
    (hv : v.outline = (a, x)) (hw : w.outline = (b, y)) (h : a < b) : v.Before w := by
  left
  rw [hv, hw]
  exact h

namespace Graph

variable {g : Graph} {s : SchemaId} {m : ModelId} {p : PropertyId} {i j : Nat}

/-- Whether a reference leads to a typed field. -/
def IsTypedField (g : Graph) (r : Reference) : Prop :=
  ∃ p, r = .property p ∧ (g.property p).shape.isTyped

/-- Whether a schema lists a model at a place. -/
def ModelAt (g : Graph) (s : SchemaId) (i : Nat) (m : ModelId) : Prop :=
  (g.modelsOf s)[i]? = some m

/-- Whether a schema lists a model at a place, which lists a property at a place. -/
def PropertyAt (g : Graph) (s : SchemaId) (i : Nat) (m : ModelId) (j : Nat) (p : PropertyId) :
    Prop :=
  g.ModelAt s i m ∧ (g.listed m)[j]? = some p

/-- What it means that a rule is broken at a place. -/
def Violates (g : Graph) (s : SchemaId) : Violation → Prop
  | .modelName name => 1 < (g.modelNames s).count name
  | .propertyName i m name => g.ModelAt s i m ∧ 1 < (g.listedNames m).count name
  | .owner i m j p => g.PropertyAt s i m j p ∧ (g.property p).owner ≠ .model m
  | .target i m j p => g.PropertyAt s i m j p ∧
    ∃ t, (g.property p).shape.target? = some (.model t) ∧ t ∉ g.modelsOf s
  | .forward i m j p => g.PropertyAt s i m j p ∧
    ∃ t q isPrivate, (g.property p).shape = .inverse (.model t) (.property q) isPrivate ∧
      q ∉ g.listed t
  | .keySort i m => g.ModelAt s i m ∧ (g.model m).primaryKey ≠ .nothing ∧
    ¬ g.IsTypedField (g.model m).primaryKey
  | .keyPlace i m => g.ModelAt s i m ∧ g.IsTypedField (g.model m).primaryKey ∧
    (g.model m).primaryKey ∉ (g.model m).slots

/-- What a relation leads to, if the property is one. -/
def targetOf (g : Graph) (p : PropertyId) : Reference :=
  (g.property p).shape.target?.getD .nothing

/-- The relation that a backlink reverses, if the property is one. -/
def forwardOf (g : Graph) (p : PropertyId) : Reference :=
  match (g.property p).shape with
  | .inverse _ forward _ => forward
  | _ => .nothing

/-- The issue that reports a violation. -/
def report (g : Graph) (s : SchemaId) : Violation → Issue
  | .modelName name => .duplicateModel name ((g.modelNames s).count name)
  | .propertyName _ m name => .duplicateProperty (g.modelName m) name ((g.listedNames m).count name)
  | .owner _ m _ p => .orphan (g.modelName m) (g.propertyName p) (g.nameAt (g.property p).owner)
  | .target _ m _ p => .unknownTarget (g.modelName m) (g.propertyName p) (g.nameAt (g.targetOf p))
  | .forward _ m _ p => .missingForward (g.modelName m) (g.propertyName p) (g.nameAt (g.targetOf p))
    (g.nameAt (g.forwardOf p))
  | .keySort _ m => .keyNotTyped (g.modelName m) (g.nameAt (g.model m).primaryKey)
  | .keyPlace _ m => .foreignKey (g.modelName m) (g.nameAt (g.model m).primaryKey)

/-! ### Places -/

/-- The rules that a property can break where it stands. -/
def slotCandidates (i : Nat) (m : ModelId) (j : Nat) (p : PropertyId) : List Violation :=
  [.owner i m j p, .target i m j p, .forward i m j p]

/-- The rules that can be broken inside a model. -/
def modelCandidates (g : Graph) (i : Nat) (m : ModelId) : List Violation :=
  ((repeatedNames (g.listedNames m)).map Prod.fst).map (.propertyName i m) ++
    ((g.listed m).zipIdx.flatMap fun e => slotCandidates i m e.2 e.1) ++
    [.keySort i m, .keyPlace i m]

/-- The rules that can be broken in a schema, in the order of the check. -/
def candidates (g : Graph) (s : SchemaId) : List Violation :=
  ((repeatedNames (g.modelNames s)).map Prod.fst).map .modelName ++
    (g.modelsOf s).zipIdx.flatMap fun e => g.modelCandidates e.2 e.1

open Classical in
/-- The violations in a schema, in the order of the check. -/
noncomputable def violations (g : Graph) (s : SchemaId) : List Violation :=
  (g.candidates s).filter (g.Violates s ·)

/-- Whatever breaks a rule stands at a place that is checked. -/
theorem mem_candidates {v : Violation} (h : g.Violates s v) : v ∈ g.candidates s := by
  have hmodel : ∀ {i m v}, g.ModelAt s i m → v ∈ g.modelCandidates i m → v ∈ g.candidates s := by
    intro i m v hm hv
    refine List.mem_append_right _ (List.mem_flatMap.2 ⟨(m, i), ?_, hv⟩)
    exact List.mem_zipIdx_iff_getElem?.2 hm
  have hslot : ∀ {i m j p v}, g.PropertyAt s i m j p → v ∈ slotCandidates i m j p →
      v ∈ g.candidates s := by
    intro i m j p v hp hv
    refine hmodel hp.1 (List.mem_append_left _ (List.mem_append_right _ ?_))
    exact List.mem_flatMap.2 ⟨(p, j), List.mem_zipIdx_iff_getElem?.2 hp.2, hv⟩
  -- a rule about names is broken only by names that are given several times, and these are listed
  cases v with
  | modelName name =>
    exact List.mem_append_left _ (List.mem_map_of_mem (mem_repeatedNames.2 h))
  | propertyName i m name =>
    refine hmodel h.1 (List.mem_append_left _ (List.mem_append_left _ ?_))
    exact List.mem_map_of_mem (mem_repeatedNames.2 h.2)
  | owner i m j p => exact hslot h.1 (by simp [slotCandidates])
  | target i m j p => exact hslot h.1 (by simp [slotCandidates])
  | forward i m j p => exact hslot h.1 (by simp [slotCandidates])
  | keySort i m => exact hmodel h.1 (by simp [modelCandidates])
  | keyPlace i m => exact hmodel h.1 (by simp [modelCandidates])

/-- Nothing is missed and nothing is made up. -/
theorem mem_violations {v : Violation} : v ∈ g.violations s ↔ g.Violates s v := by
  simp only [violations, List.mem_filter, decide_eq_true_eq]
  exact ⟨And.right, fun h => ⟨mem_candidates h, h⟩⟩

/-! ### Order -/

theorem pairwise_zipIdx {α : Type} (xs : List α) : xs.zipIdx.Pairwise fun a b => a.2 < b.2 := by
  have h : (xs.zipIdx.map Prod.snd).Pairwise (· < ·) := by
    rw [List.zipIdx_map_snd]
    exact List.pairwise_lt_range'
  exact List.pairwise_map.1 h

theorem outline_of_mem_slotCandidates {v : Violation} (h : v ∈ slotCandidates i m j p) :
    ∃ k, v.outline = ([1, i, 1, j, k], "") := by
  simp only [slotCandidates, List.mem_cons, List.not_mem_nil, or_false] at h
  rcases h with rfl | rfl | rfl
  exacts [⟨0, rfl⟩, ⟨1, rfl⟩, ⟨2, rfl⟩]

theorem outline_of_mem_modelCandidates {v : Violation} (h : v ∈ g.modelCandidates i m) :
    ∃ place name, v.outline = (1 :: i :: place, name) := by
  simp only [modelCandidates, List.mem_append, List.mem_map, List.mem_flatMap, List.mem_cons,
    List.not_mem_nil, or_false] at h
  rcases h with (⟨name, -, rfl⟩ | ⟨e, -, h⟩) | rfl | rfl
  · exact ⟨_, _, rfl⟩
  · obtain ⟨k, hk⟩ := outline_of_mem_slotCandidates h
    exact ⟨_, _, hk⟩
  · exact ⟨_, _, rfl⟩
  · exact ⟨_, _, rfl⟩

theorem pairwise_slotCandidates :
    (slotCandidates i m j p).Pairwise Violation.Before := by
  simp [slotCandidates, Violation.Before, Violation.outline, List.cons_lt_cons_iff]

/-- Names that are told apart by one number are in order. -/
theorem pairwise_names {make : String → Violation} {place : List Nat} {names : List String}
    (hmake : ∀ name, (make name).outline = (place, name)) (h : names.Pairwise (· < ·)) :
    (names.map make).Pairwise Violation.Before := by
  rw [List.pairwise_map]
  refine h.imp ?_
  intro a b hab
  right
  simp only [hmake]
  exact ⟨trivial, hab⟩

theorem pairwise_modelCandidates :
    (g.modelCandidates i m).Pairwise Violation.Before := by
  have hslots : ((g.listed m).zipIdx.flatMap fun e => slotCandidates i m e.2 e.1).Pairwise
      Violation.Before := by
    rw [List.pairwise_flatMap]
    refine ⟨fun _ _ => pairwise_slotCandidates, (pairwise_zipIdx _).imp ?_⟩
    intro a b hab v hv w hw
    obtain ⟨k, hk⟩ := outline_of_mem_slotCandidates hv
    obtain ⟨l, hl⟩ := outline_of_mem_slotCandidates hw
    exact Violation.before_of_lt hk hl (by simp [List.cons_lt_cons_iff, hab])
  -- names come before properties, and properties before the key
  rw [modelCandidates, List.pairwise_append, List.pairwise_append]
  refine ⟨⟨pairwise_names (fun _ => rfl) (pairwise_repeatedNames _), hslots, ?_⟩, ?_, ?_⟩
  · intro v hv w hw
    obtain ⟨name, -, rfl⟩ := List.mem_map.1 hv
    obtain ⟨e, -, hw⟩ := List.mem_flatMap.1 hw
    obtain ⟨k, hk⟩ := outline_of_mem_slotCandidates hw
    exact Violation.before_of_lt rfl hk (by simp [List.cons_lt_cons_iff])
  · simp [Violation.Before, Violation.outline, List.cons_lt_cons_iff]
  · intro v hv w hw
    obtain ⟨k, hk, hkey⟩ : ∃ k, 2 ≤ k ∧ w.outline = ([1, i, k], "") := by
      simp only [List.mem_cons, List.not_mem_nil, or_false] at hw
      rcases hw with rfl | rfl
      exacts [⟨2, le_refl 2, rfl⟩, ⟨3, by decide, rfl⟩]
    rcases List.mem_append.1 hv with hv | hv
    · obtain ⟨name, -, rfl⟩ := List.mem_map.1 hv
      have : 0 < k := by omega
      exact Violation.before_of_lt rfl hkey (by simp [List.cons_lt_cons_iff, this])
    · obtain ⟨e, -, hv⟩ := List.mem_flatMap.1 hv
      obtain ⟨l, hl⟩ := outline_of_mem_slotCandidates hv
      have : 1 < k := by omega
      exact Violation.before_of_lt hl hkey (by simp [List.cons_lt_cons_iff, this])

/-- All places are checked in their order. -/
theorem pairwise_candidates : (g.candidates s).Pairwise Violation.Before := by
  rw [candidates, List.pairwise_append]
  refine ⟨pairwise_names (fun _ => rfl) (pairwise_repeatedNames _), ?_, ?_⟩
  · rw [List.pairwise_flatMap]
    refine ⟨fun _ _ => pairwise_modelCandidates, (pairwise_zipIdx _).imp ?_⟩
    intro a b hab v hv w hw
    obtain ⟨place, name, hv⟩ := outline_of_mem_modelCandidates hv
    obtain ⟨place', name', hw⟩ := outline_of_mem_modelCandidates hw
    exact Violation.before_of_lt hv hw (by simp [List.cons_lt_cons_iff, hab])
  · intro v hv w hw
    obtain ⟨name, -, rfl⟩ := List.mem_map.1 hv
    obtain ⟨e, -, hw⟩ := List.mem_flatMap.1 hw
    obtain ⟨place, name', hw⟩ := outline_of_mem_modelCandidates hw
    exact Violation.before_of_lt rfl hw (by simp [List.cons_lt_cons_iff])

/-- The violations come each once and in order. -/
theorem pairwise_violations : (g.violations s).Pairwise Violation.Before :=
  pairwise_candidates.filter _

theorem nodup_violations : (g.violations s).Nodup :=
  pairwise_violations.imp Violation.Before.ne

/-! ### Reports -/

/-- What is made of the items of a list can be made of them as they are counted. -/
theorem map_eq_map_zipIdx {α β : Type} (f : α → β) (xs : List α) :
    xs.map f = xs.zipIdx.map fun e => f e.1 := by
  conv_lhs => rw [← List.zipIdx_map_fst 0 xs, List.map_map]
  rfl

open Classical in
/-- The reports of those of some places where a rule is broken. -/
noncomputable def reports (g : Graph) (s : SchemaId) (places : List Violation) : List Issue :=
  (places.filter (g.Violates s ·)).map (g.report s)

theorem reports_append (vs ws : List Violation) :
    g.reports s (vs ++ ws) = g.reports s vs ++ g.reports s ws := by
  simp [reports]

theorem reports_cons_cons (v w : Violation) (vs : List Violation) :
    g.reports s (v :: w :: vs) = g.reports s [v] ++ g.reports s (w :: vs) :=
  reports_append [v] (w :: vs)

/-- A pass over places reports what each of them has to report. -/
theorem reports_flatMap {α : Type} (xs : List α) (f : α → List Violation) :
    g.reports s (xs.flatMap f) = (xs.map fun x => g.reports s (f x)).flatten := by
  simp [reports, List.flatMap_def, Function.comp_def]

open Classical in
/-- At one place there is one report or none. -/
theorem reports_singleton (v : Violation) :
    g.reports s [v] = if g.Violates s v then [g.report s v] else [] := by
  by_cases h : g.Violates s v <;> simp [reports, h]

/-- Where all rules are broken, all of them are reported. -/
theorem reports_of_violated {vs : List Violation} (h : ∀ v ∈ vs, g.Violates s v) :
    g.reports s vs = vs.map (g.report s) := by
  rw [reports, List.filter_eq_self.2 (by simpa using h)]

/-- Names that are given several times are reported with their numbers. -/
theorem reports_repeatedNames {names : List String} (make : String → Violation)
    (issue : String → Nat → Issue)
    (hviolated : ∀ name, 1 < names.count name → g.Violates s (make name))
    (hreport : ∀ name, g.report s (make name) = issue name (names.count name)) :
    g.reports s (((repeatedNames names).map Prod.fst).map make) =
      (repeatedNames names).map fun e => issue e.1 e.2 := by
  have hall : ∀ v ∈ ((repeatedNames names).map Prod.fst).map make, g.Violates s v := by
    intro v hv
    obtain ⟨name, hname, rfl⟩ := List.mem_map.1 hv
    exact hviolated name (mem_repeatedNames.1 hname)
  rw [reports_of_violated hall, List.map_map, List.map_map]
  apply List.map_congr_left
  rintro ⟨name, count⟩ hcount
  rw [count_of_mem_repeatedNames hcount]
  exact hreport name

/-! ### The check -/

theorem ownerIssues_eq (hp : g.PropertyAt s i m j p) (hw : (g.property p).WellPointed) :
    g.ownerIssues m p = .ok (g.reports s [.owner i m j p]) := by
  obtain ⟨o, ho⟩ := hw.owner
  rw [reports_singleton, ownerIssues, ho]
  by_cases h : (Reference.model o) = .model m
  · simp [Violates, ho, h]
  · have hv : g.Violates s (.owner i m j p) := ⟨hp, by rw [ho]; exact h⟩
    simp only [h, if_false, hv, if_true, nameOf_model, report, ho, nameAt_model]
    rfl

theorem targetIssues_eq (hp : g.PropertyAt s i m j p) (hw : (g.property p).WellPointed) :
    g.targetIssues s m p = .ok (g.reports s [.target i m j p]) := by
  rw [reports_singleton, targetIssues]
  rcases ht : (g.property p).shape.target? with - | r
  · simp [Violates, ht]
  · obtain ⟨t, rfl⟩ := hw.target r ht
    by_cases h : t ∈ g.modelsOf s
    · simp [Violates, ht, h, mem_modelsOf.1 h]
    · have hv : g.Violates s (.target i m j p) := ⟨hp, t, ht, h⟩
      simp only [mt mem_modelsOf.2 h, if_false, hv, if_true, nameOf_model, report, targetOf, ht,
        Option.getD_some, nameAt_model]
      rfl

/-- The check of a backlink reports the rule about reversed relations where it is broken. -/
theorem forwardIssues_eq (hp : g.PropertyAt s i m j p) (hw : (g.property p).WellPointed) :
    g.forwardIssues m p = .ok (g.reports s [.forward i m j p]) := by
  rw [reports_singleton, forwardIssues]
  rcases hs : (g.property p).shape with ⟨kind, required⟩ | target | target |
    ⟨target, forward, isPrivate⟩
  · simp [Violates, hs, pure, Except.pure]
  · simp [Violates, hs, pure, Except.pure]
  · simp [Violates, hs, pure, Except.pure]
  -- a backlink asks what its target lists
  · obtain ⟨t, rfl⟩ := hw.target target (by rw [hs]; rfl)
    obtain ⟨q, rfl⟩ := hw.forward _ _ _ hs
    by_cases h : q ∈ g.listed t
    · simp [Violates, hs, h, mem_listed.1 h, slotsOf, bind, Except.bind, pure, Except.pure]
    · have hv : g.Violates s (.forward i m j p) := ⟨hp, t, q, isPrivate, hs, h⟩
      simp [hv, mt mem_listed.2 h, report, targetOf, forwardOf, hs, Shape.target?, slotsOf, bind,
        Except.bind, pure, Except.pure, propertyName]

/-- The check of a property reports the three rules about properties in order. -/
theorem slotIssues_eq (hp : g.PropertyAt s i m j p) (hw : (g.property p).WellPointed) :
    g.slotIssues s m (.property p) = .ok (g.reports s (slotCandidates i m j p)) := by
  rw [slotIssues, ownerIssues_eq hp hw, targetIssues_eq hp hw, forwardIssues_eq hp hw,
    slotCandidates, reports_cons_cons, reports_cons_cons, ← List.append_assoc]
  rfl

/-- The check of a model's names reports each that is repeated. -/
theorem nameIssues_eq (h : g.WellPointed s) (hm : g.ModelAt s i m) :
    g.nameIssues m = .ok (g.reports s
      (((repeatedNames (g.listedNames m)).map Prod.fst).map (.propertyName i m))) := by
  rw [nameIssues, h.namesOf_model (List.mem_of_getElem? hm),
    reports_repeatedNames (.propertyName i m) (.duplicateProperty (g.modelName m))
      (fun _ hname => ⟨hm, hname⟩) (fun _ => rfl)]
  rfl

/-- The check of a key reports the first of the two rules about keys that is broken. -/
theorem keyIssues_eq (h : g.WellPointed s) (hm : g.ModelAt s i m) :
    g.keyIssues m = .ok (g.reports s [.keySort i m, .keyPlace i m]) := by
  rw [reports_cons_cons, reports_singleton, reports_singleton, keyIssues]
  rcases h.key m (List.mem_of_getElem? hm) with hkey | ⟨name, hname⟩
  · simp [Violates, hkey, IsTypedField]
  · have hsome : (g.model m).primaryKey ≠ .nothing := by
      intro hnone
      rw [hnone] at hname
      cases hname
    have htyped :
        (g.model m).primaryKey.property?.any (fun p => (g.property p).shape.isTyped) = true ↔
        g.IsTypedField (g.model m).primaryKey := by
      cases (g.model m).primaryKey <;> simp [Reference.property?, IsTypedField]
    have hat : g.nameAt (g.model m).primaryKey = name := by
      rw [nameAt, hname]
      rfl
    -- where the key stands is asked only if it is a typed field
    by_cases ht : g.IsTypedField (g.model m).primaryKey
    · by_cases hl : (g.model m).primaryKey ∈ (g.model m).slots
      · simp [Violates, hsome, ht, hl, htyped.2 ht]
      · have hv : g.Violates s (.keyPlace i m) := ⟨hm, ht, hl⟩
        simp [Violates, hm, hsome, ht, hl, htyped.2 ht, hname, report, hat, Except.map]
    · have hnot := mt htyped.1 ht
      have hv : g.Violates s (.keySort i m) := ⟨hm, hsome, ht⟩
      simp [Violates, hm, hsome, ht, hnot, hname, report, hat, Except.map]

/-- The check of a model reports its names, its properties and its key. -/
theorem modelIssues_eq (h : g.WellPointed s) (hm : g.ModelAt s i m) :
    g.modelIssues s (.model m) = .ok (g.reports s (g.modelCandidates i m)) := by
  have hmem : m ∈ g.modelsOf s := List.mem_of_getElem? hm
  have hpass : (g.model m).slots.mapM (g.slotIssues s m) =
      .ok ((g.listed m).zipIdx.map fun e => g.reports s (slotCandidates i m e.2 e.1)) := by
    rw [h.slots_model hmem, map_eq_map_zipIdx, List.mapM_map]
    refine mapM_eq_ok ?_
    intro e he
    have hp : g.PropertyAt s i m e.2 e.1 := ⟨hm, List.mem_zipIdx_iff_getElem?.1 he⟩
    exact slotIssues_eq hp (h.property m hmem e.1 (List.mem_of_getElem? hp.2))
  rw [modelIssues, nameIssues_eq h hm, hpass, keyIssues_eq h hm, modelCandidates, reports_append,
    reports_append, reports_flatMap]
  rfl

/-- The check comes to the reports of the violations. -/
theorem issues_eq (h : g.WellPointed s) :
    g.issues s = .ok ((g.violations s).map (g.report s)) := by
  have hpass : (g.schema s).slots.mapM (g.modelIssues s) =
      .ok ((g.modelsOf s).zipIdx.map fun e => g.reports s (g.modelCandidates e.2 e.1)) := by
    rw [h.slots_schema, map_eq_map_zipIdx, List.mapM_map]
    refine mapM_eq_ok ?_
    intro e he
    exact modelIssues_eq h (List.mem_zipIdx_iff_getElem?.1 he)
  have hreports : (g.violations s).map (g.report s) = g.reports s (g.candidates s) := rfl
  rw [issues, h.namesOf_schema, hpass, hreports, candidates, reports_append, reports_flatMap,
    reports_repeatedNames .modelName .duplicateModel (fun _ hname => hname) (fun _ => rfl)]
  rfl

/-- Where the check of a key gives an answer, the key is none or has a name. -/
theorem key_named_of_keyIssues {found : List Issue} (h : g.keyIssues m = .ok found) :
    (g.model m).primaryKey = .nothing ∨ ∃ name, g.nameOf (g.model m).primaryKey = .ok name := by
  rw [keyIssues] at h
  cases hkey : (g.model m).primaryKey with
  | nothing => exact .inl rfl
  | model n => exact .inr ⟨_, rfl⟩
  | property p => exact .inr ⟨_, rfl⟩
  | schema t =>
    rw [hkey] at h
    cases h
  | text s =>
    rw [hkey] at h
    cases h

/-- A key without a name is never reported.  The check is refused over it, if it was not refused
before. -/
theorem issues_refused_of_nameless_key (hm : m ∈ g.modelsOf s)
    (hkey : (g.model m).primaryKey ≠ .nothing)
    (hname : ∀ name, g.nameOf (g.model m).primaryKey ≠ .ok name) :
    ∃ fault, g.issues s = .error fault := by
  cases hissues : g.issues s with
  | error fault => exact ⟨fault, rfl⟩
  | ok found =>
    -- an answer is put together from the answers for all models, and those from the keys' answers
    obtain ⟨_, -, hrest⟩ := bind_eq_ok.1 hissues
    obtain ⟨_, hpass, -⟩ := bind_eq_ok.1 hrest
    obtain ⟨_, -, hmodel⟩ := exists_mem_of_mapM_eq_ok hpass _ (mem_modelsOf.1 hm)
    obtain ⟨_, -, hmodel⟩ := bind_eq_ok.1 hmodel
    obtain ⟨_, -, hmodel⟩ := bind_eq_ok.1 hmodel
    obtain ⟨_, hfound, -⟩ := bind_eq_ok.1 hmodel
    rcases key_named_of_keyIssues hfound with hnone | ⟨name, hnamed⟩
    · exact absurd hnone hkey
    · exact absurd hnamed (hname name)

/-- The check reports each violation exactly once, in order, and nothing else.  The pointers lead to
objects of the right sorts, and keys without a name are left out: where there is one, nothing is
reported at all (`issues_refused_of_nameless_key`). -/
theorem issues_report_violations (h : g.WellPointed s) :
    ∃ vs : List Violation, (∀ v, v ∈ vs ↔ g.Violates s v) ∧ vs.Nodup ∧
      vs.Pairwise Violation.Before ∧ g.issues s = .ok (vs.map (g.report s)) :=
  ⟨g.violations s, fun _ => mem_violations, nodup_violations, pairwise_violations, issues_eq h⟩

/-- A schema of two models of one name, with a third model outside that owns a listed backlink, is
its target and lists nothing. -/
def tangled : Graph where
  schemas := [{ slots := [.model ⟨0⟩, .model ⟨1⟩] }]
  models := [
    { schema := ⟨0⟩, name := "Cat", slots := [.property ⟨0⟩, .property ⟨1⟩, .property ⟨2⟩],
      primaryKey := .property ⟨1⟩ },
    { schema := ⟨0⟩, name := "Cat", slots := [.property ⟨1⟩], primaryKey := .property ⟨0⟩ },
    { schema := ⟨0⟩, name := "Dog" }]
  properties := [
    { owner := .model ⟨0⟩, name := "age", shape := .typed (.known .int32) true },
    { owner := .model ⟨1⟩, name := "age", shape := .toMany (.model ⟨1⟩) },
    { owner := .model ⟨2⟩, name := "friends",
      shape := .inverse (.model ⟨2⟩) (.property ⟨1⟩) false }]

/-- Eight violations at once, in a schema that calls alone do not build up. -/
theorem issues_report_violations_tangled :
    tangled.WellPointed ⟨0⟩ ∧
    ∃ vs : List Violation, (∀ v, v ∈ vs ↔ tangled.Violates ⟨0⟩ v) ∧ vs.Nodup ∧
      vs.Pairwise Violation.Before ∧ tangled.issues ⟨0⟩ = .ok (vs.map (tangled.report ⟨0⟩)) ∧
      (vs.map (tangled.report ⟨0⟩)).map (fun issue => (issue.code, issue.property?)) = [
        ("model.duplicate", none), ("property.duplicate", some "age"),
        ("property.orphan", some "age"), ("property.orphan", some "friends"),
        ("relation.unknown_target", some "friends"),
        ("linking_objects.missing_property", some "friends"),
        ("primary_key.not_typed_field", some "age"), ("primary_key.foreign", some "age")] := by
  have hpointed : tangled.WellPointed ⟨0⟩ := by decide
  obtain ⟨vs, hvs, hnodup, hbefore, hissues⟩ := issues_report_violations hpointed
  refine ⟨hpointed, vs, hvs, hnodup, hbefore, hissues, ?_⟩
  have hall : tangled.issues ⟨0⟩ = .ok [
      .duplicateModel "Cat" 2, .duplicateProperty "Cat" "age" 2, .orphan "Cat" "age" "Cat",
      .orphan "Cat" "friends" "Dog", .unknownTarget "Cat" "friends" "Dog",
      .missingForward "Cat" "friends" "Dog" "age", .keyNotTyped "Cat" "age",
      .foreignKey "Cat" "age"] := by cbv
  rw [hall] at hissues
  rw [← Except.ok.inj hissues]
  rfl

end Graph

end MobileSchema
