import MobileSchema.Proofs.Schema.Violations
import Mathlib.Data.List.Nodup

/-!
# Valid schemas

The check accepts a schema exactly if the schema is closed and its names differ: those of its
models, and those of the properties of each model (`validate_eq_ok_iff`).  No sort of pointer is
presupposed, since a pointer to the wrong sort of object is refused by the check itself.

From left to right the check is taken apart (`closed_of_validate`); from right to left nothing but
names can be violated in a closed schema (`Closed.eq_name_of_violates`).
-/

namespace MobileSchema

namespace Graph

variable {g : Graph} {s : SchemaId} {m : ModelId} {p : PropertyId}

/-- A schema passes the check just if nothing is reported. -/
theorem validate_eq_ok_iff_issues : g.validate s = .ok () ↔ g.issues s = .ok [] := by
  rw [validate, bind_eq_ok]
  constructor
  · rintro ⟨issues, hissues, h⟩
    by_cases hne : issues = []
    · rw [hissues, hne]
    · rw [if_pos hne] at h
      cases h
  · intro h
    exact ⟨[], h, rfl⟩

/-! ### Taking the check apart -/

theorem owner_of_ownerIssues (h : g.ownerIssues m p = .ok []) :
    (g.property p).owner = .model m := by
  by_contra hne
  rw [ownerIssues] at h
  simp only [hne, if_false, map_eq_ok] at h
  obtain ⟨_, _, h⟩ := h
  cases h

theorem target_of_targetIssues (h : g.targetIssues s m p = .ok []) :
    ∀ r, (g.property p).shape.target? = some r → r ∈ (g.schema s).slots := by
  intro r hr
  by_contra hne
  rw [targetIssues] at h
  simp only [hr, hne, if_false, map_eq_ok] at h
  obtain ⟨_, _, h⟩ := h
  cases h

/-- Where no missing relation is reported, the target lists what the backlink reverses. -/
theorem forward_of_forwardIssues (h : g.forwardIssues m p = .ok []) :
    ∀ t r isPrivate, (g.property p).shape = .inverse (.model t) r isPrivate →
      r ∈ (g.model t).slots := by
  intro t r isPrivate hshape
  by_contra hne
  rw [forwardIssues] at h
  simp only [hshape] at h
  obtain ⟨slots, hslots, h⟩ := bind_eq_ok.1 h
  cases hslots
  simp only [hne, if_false, bind_eq_ok] at h
  obtain ⟨_, _, _, _, h⟩ := h
  cases h

/-- Where no key is reported, there is none or it is a typed field that the model lists. -/
theorem key_of_keyIssues (h : g.keyIssues m = .ok []) :
    (g.model m).primaryKey = .nothing ∨ ∃ p, (g.model m).primaryKey = .property p ∧
      (g.property p).shape.isTyped ∧ .property p ∈ (g.model m).slots := by
  by_contra hne
  simp only [not_or, not_exists, not_and] at hne
  rw [keyIssues] at h
  simp only [hne.1, if_false] at h
  split at h
  · obtain ⟨_, _, h⟩ := map_eq_ok.1 h
    cases h
  · next htyped =>
    cases hkey : (g.model m).primaryKey with
    | property p =>
      have ht : (g.property p).shape.isTyped = true := by
        simpa [hkey, Reference.property?] using htyped
      have hp := hne.2 p hkey ht
      rw [← hkey] at hp
      simp only [hp, if_false, map_eq_ok] at h
      obtain ⟨_, _, h⟩ := h
      cases h
    | _ => simp [hkey, Reference.property?] at htyped

/-- What the check has found to be right in a property. -/
structure Checked (g : Graph) (s : SchemaId) (m : ModelId) (p : PropertyId) : Prop where
  owner : (g.property p).owner = .model m
  target : ∀ r, (g.property p).shape.target? = some r → r ∈ (g.schema s).slots
  forward : ∀ t r isPrivate, (g.property p).shape = .inverse (.model t) r isPrivate →
    r ∈ (g.model t).slots

/-- What is listed without being reported is a property that the check has nothing to say about. -/
theorem checked_of_slotIssues {r : Reference} (h : g.slotIssues s m r = .ok []) :
    ∃ p, r = .property p ∧ g.Checked s m p := by
  cases r with
  | property p =>
    rw [slotIssues] at h
    obtain ⟨owners, howners, h⟩ := bind_eq_ok.1 h
    obtain ⟨targets, htargets, h⟩ := bind_eq_ok.1 h
    obtain ⟨forwards, hforwards, h⟩ := bind_eq_ok.1 h
    have hnil : owners ++ targets ++ forwards = [] := Except.ok.inj h
    simp only [List.append_eq_nil_iff] at hnil
    obtain ⟨⟨rfl, rfl⟩, rfl⟩ := hnil
    exact ⟨p, rfl, owner_of_ownerIssues howners, target_of_targetIssues htargets,
      forward_of_forwardIssues hforwards⟩
  | _ => cases h

/-- A model of which nothing is reported repeats no name, lists checked properties only and has a
good key. -/
theorem checked_of_modelIssues {r : Reference} (h : g.modelIssues s r = .ok []) :
    ∃ m, r = .model m ∧ g.nameIssues m = .ok [] ∧
      (∀ r ∈ (g.model m).slots, ∃ p, r = .property p ∧ g.Checked s m p) ∧
      g.keyIssues m = .ok [] := by
  cases r with
  | model m =>
    rw [modelIssues] at h
    obtain ⟨names, hnames, h⟩ := bind_eq_ok.1 h
    obtain ⟨slots, hslots, h⟩ := bind_eq_ok.1 h
    obtain ⟨keys, hkeys, h⟩ := bind_eq_ok.1 h
    have hnil : names ++ slots.flatten ++ keys = [] := Except.ok.inj h
    rw [List.append_eq_nil_iff, List.append_eq_nil_iff] at hnil
    obtain ⟨⟨rfl, hflat⟩, rfl⟩ := hnil
    refine ⟨m, rfl, hnames, ?_, hkeys⟩
    intro r hr
    exact checked_of_slotIssues (eq_ok_nil_of_mapM hslots hflat r hr)
  | _ => cases h

/-- What passes the check points at nothing outside and has everything in its place. -/
theorem closed_of_validate (h : g.validate s = .ok ()) : g.Closed s := by
  rw [validate_eq_ok_iff_issues, issues] at h
  obtain ⟨names, -, h⟩ := bind_eq_ok.1 h
  obtain ⟨models, hmodels, h⟩ := bind_eq_ok.1 h
  have hnil := (List.append_eq_nil_iff.1 (Except.ok.inj h)).2
  -- what is listed in the place of a model is refused unless it is one
  have hall : ∀ r ∈ (g.schema s).slots, ∃ m, r = .model m ∧ g.nameIssues m = .ok [] ∧
      (∀ r ∈ (g.model m).slots, ∃ p, r = .property p ∧ g.Checked s m p) ∧
      g.keyIssues m = .ok [] := by
    intro r hr
    exact checked_of_modelIssues (eq_ok_nil_of_mapM hmodels hnil r hr)
  have hmodel : ∀ m ∈ g.modelsOf s,
      (∀ r ∈ (g.model m).slots, ∃ p, r = .property p ∧ g.Checked s m p) ∧
      g.keyIssues m = .ok [] := by
    intro m hm
    obtain ⟨m', heq, -, hslots, hkey⟩ := hall _ (mem_modelsOf.1 hm)
    cases heq
    exact ⟨hslots, hkey⟩
  have hchecked : ∀ m ∈ g.modelsOf s, ∀ p ∈ g.listed m, g.Checked s m p := by
    intro m hm p hp
    obtain ⟨p', heq, hp'⟩ := (hmodel m hm).1 _ (mem_listed.1 hp)
    cases heq
    exact hp'
  -- a target is in the list of the schema, where there is nothing but models
  have htarget : ∀ m ∈ g.modelsOf s, ∀ p ∈ g.listed m, ∀ r,
      (g.property p).shape.target? = some r → ∃ t ∈ g.modelsOf s, r = .model t := by
    intro m hm p hp r hr
    have hslot := (hchecked m hm p hp).target r hr
    obtain ⟨t, rfl, -⟩ := hall r hslot
    exact ⟨t, mem_modelsOf.2 hslot, rfl⟩
  constructor
  case models =>
    intro r hr
    obtain ⟨m, hm, -⟩ := hall r hr
    exact ⟨m, hm⟩
  case properties =>
    intro m hm r hr
    obtain ⟨p, hp, -⟩ := (hmodel m hm).1 r hr
    exact ⟨p, hp⟩
  case owner =>
    intro m hm p hp
    exact (hchecked m hm p hp).owner
  case fits =>
    intro m hm p hp
    refine ⟨htarget m hm p hp, ?_⟩
    intro t r isPrivate hshape
    obtain ⟨t', ht', heq⟩ := htarget m hm p hp (.model t) (by rw [hshape]; rfl)
    cases heq
    have hslot := (hchecked m hm p hp).forward t r isPrivate hshape
    obtain ⟨q, rfl, -⟩ := (hmodel t ht').1 r hslot
    exact ⟨q, mem_listed.2 hslot, rfl⟩
  case key =>
    intro m hm
    rcases key_of_keyIssues (hmodel m hm).2 with hkey | ⟨p, hkey, htyped, hp⟩
    · exact .inl hkey
    · exact .inr ⟨p, mem_listed.2 hp, hkey, htyped⟩

/-! ### Closed schemas -/

/-- In a closed schema nothing but names can be violated. -/
theorem Closed.eq_name_of_violates (h : g.Closed s) {v : Violation} (hv : g.Violates s v) :
    (∃ name, v = .modelName name) ∨ ∃ i m name, v = .propertyName i m name := by
  cases v with
  | modelName name => exact .inl ⟨name, rfl⟩
  | propertyName i m name => exact .inr ⟨i, m, name, rfl⟩
  -- every other violation contradicts one of the fields of a closed schema
  | owner i m j p =>
    obtain ⟨⟨hm, hp⟩, hne⟩ := hv
    exact absurd (h.owner m (List.mem_of_getElem? hm) p (List.mem_of_getElem? hp)) hne
  | target i m j p =>
    obtain ⟨⟨hm, hp⟩, t, ht, hne⟩ := hv
    have hfits := h.fits m (List.mem_of_getElem? hm) p (List.mem_of_getElem? hp)
    obtain ⟨t', ht', heq⟩ := hfits.target _ ht
    cases heq
    exact absurd ht' hne
  | forward i m j p =>
    obtain ⟨⟨hm, hp⟩, t, q, isPrivate, hshape, hne⟩ := hv
    have hfits := h.fits m (List.mem_of_getElem? hm) p (List.mem_of_getElem? hp)
    obtain ⟨q', hq', heq⟩ := hfits.forward _ _ _ hshape
    cases heq
    exact absurd hq' hne
  | keySort i m =>
    obtain ⟨hm, hne, hnot⟩ := hv
    rcases h.key m (List.mem_of_getElem? hm) with hkey | ⟨p, -, hkey, htyped⟩
    · exact absurd hkey hne
    · exact absurd ⟨p, hkey, htyped⟩ hnot
  | keyPlace i m =>
    obtain ⟨hm, ⟨q, hq, -⟩, hne⟩ := hv
    rcases h.key m (List.mem_of_getElem? hm) with hkey | ⟨p, hp, hkey, -⟩
    · rw [hkey] at hq
      cases hq
    · rw [hkey] at hne
      exact absurd (mem_listed.1 hp) hne

/-- Where no rule is broken, no name repeats. -/
theorem nodup_names_of_not_violates :
    (∀ v, ¬ g.Violates s v) →
      (g.modelNames s).Nodup ∧ ∀ m ∈ g.modelsOf s, (g.listedNames m).Nodup := by
  intro h
  refine ⟨List.nodup_iff_count_le_one.2 fun name => not_lt.1 (h (.modelName name)), ?_⟩
  intro m hm
  obtain ⟨i, hi⟩ := List.mem_iff_getElem?.1 hm
  refine List.nodup_iff_count_le_one.2 fun name => not_lt.1 fun hlt => ?_
  exact h (.propertyName i m name) ⟨hi, hlt⟩

/-- Pointers that stay inside and names that differ are all that the check asks for. -/
theorem Closed.issues_eq_nil (h : g.Closed s) (hnames : (g.modelNames s).Nodup)
    (hlisted : ∀ m ∈ g.modelsOf s, (g.listedNames m).Nodup) : g.issues s = .ok [] := by
  have hnil : g.violations s = [] := by
    refine List.eq_nil_iff_forall_not_mem.2 fun v hv => ?_
    have hv := mem_violations.1 hv
    rcases h.eq_name_of_violates hv with ⟨name, rfl⟩ | ⟨i, m, name, rfl⟩
    · exact absurd hv (not_lt.2 (List.nodup_iff_count_le_one.1 hnames name))
    · have hm := List.mem_of_getElem? hv.1
      exact absurd hv.2 (not_lt.2 (List.nodup_iff_count_le_one.1 (hlisted m hm) name))
  rw [issues_eq h.wellPointed, hnil]
  rfl

/-- The check accepts a schema exactly if the schema is closed and its names differ. -/
theorem validate_eq_ok_iff : g.validate s = .ok () ↔
    g.Closed s ∧ (g.modelNames s).Nodup ∧ ∀ m ∈ g.modelsOf s, (g.listedNames m).Nodup := by
  constructor
  · intro h
    have hclosed := closed_of_validate h
    refine ⟨hclosed, nodup_names_of_not_violates fun v hv => ?_⟩
    rw [validate_eq_ok_iff_issues, issues_eq hclosed.wellPointed] at h
    have hnil := List.map_eq_nil_iff.1 (Except.ok.inj h)
    have hmem := mem_violations.2 hv
    rw [hnil] at hmem
    cases hmem
  · rintro ⟨hclosed, hnames, hlisted⟩
    exact validate_eq_ok_iff_issues.2 (hclosed.issues_eq_nil hnames hlisted)

end Graph

end MobileSchema
