import Mathlib.Data.List.Basic
import Mathlib.Data.String.Basic
import MobileSchema.Template.TextFunction

/-!
# What merging text functions comes to

A caller's offers are gone through in the order of their names, and each is taken into the table or
refused.  So the first refusal in that order is the outcome if there is one, and otherwise all
offers are taken (`foldlM_accept`).

Each name is offered once.  That settles the order in which offers are gone through, whatever the
order in which they were made, and no offer can undo another one.  Main result: `merge_overrides`.
-/

namespace MobileSchema

/-- The function that is offered, if it is one. -/
def Offer.function? : Offer → Option TextFunction
  | .function f => some f
  | .other _ => none

namespace FunctionTable

variable {table : FunctionTable} {offers others : List (String × Offer)} {name : String}
  {f : TextFunction}

/-! ### One function -/

theorem lookup_map_put (table : FunctionTable) (name other : String) (f : TextFunction) :
    (table.map fun entry => if entry.1 = name then (name, f) else entry).lookup other =
      if other = name then (table.lookup name).map fun _ => f else table.lookup other := by
  induction table with
  | nil => simp
  | cons entry table ih =>
    obtain ⟨own, g⟩ := entry
    rw [List.map_cons]
    by_cases hown : own = name
    · subst hown
      by_cases hother : other = own
      · simp [hother]
      · simp [List.lookup_cons, hother, ih, beq_eq_false_iff_ne.2 hother]
    · by_cases hother : other = name
      · subst hother
        simp [List.lookup_cons, hown, ih, beq_eq_false_iff_ne.2 (Ne.symm hown)]
      · simp [List.lookup_cons, hown, hother, ih]

/-- Nothing is found under a name just if no function has it. -/
theorem find?_eq_none_iff : table.find? name = none ↔ name ∉ table.names := by
  simp only [find?, names, List.lookup_eq_none_iff, List.mem_map, bne_iff_ne, not_exists, not_and]
  exact forall₂_congr fun entry _ => ne_comm

/-- A function that is put into a table is found under its name, and nothing else is changed. -/
theorem find?_put (table : FunctionTable) (name other : String) (f : TextFunction) :
    (table.put name f).find? other = if other = name then some f else table.find? other := by
  rw [put, find?]
  split
  · next h =>
    have hthere : (table.lookup name).isSome := by
      rw [Option.isSome_iff_ne_none]
      exact fun hnone => find?_eq_none_iff.1 hnone (by simpa using h)
    obtain ⟨g, hg⟩ := Option.isSome_iff_exists.1 hthere
    rw [lookup_map_put, hg]
    rfl
  · next h =>
    have hnone : table.find? name = none := find?_eq_none_iff.2 (by simpa using h)
    rw [List.lookup_append]
    by_cases hother : other = name
    · rw [if_pos hother, hother, show table.lookup name = none from hnone]
      simp
    · simp [hother, find?, List.lookup_cons, beq_eq_false_iff_ne.2 hother]

/-! ### All functions -/

/-- Where the names differ, each leads to its offer. -/
theorem lookup_eq_some_of_mem (h : (offers.map (·.1)).Nodup) {offer : String × Offer}
    (hoffer : offer ∈ offers) : offers.lookup offer.1 = some offer.2 := by
  induction offers with
  | nil => cases hoffer
  | cons first offers ih =>
    obtain ⟨hfirst, hrest⟩ := List.nodup_cons.1 h
    rcases List.mem_cons.1 hoffer with rfl | hoffer
    · exact List.lookup_cons_self
    · have hne : offer.1 ≠ first.1 := fun heq => hfirst (List.mem_map.2 ⟨offer, hoffer, heq⟩)
      rw [List.lookup_cons, beq_eq_false_iff_ne.2 hne, ih hrest hoffer]

/-- What an offer is refused for. -/
def refusal? : String × Offer → Option NotApplicable
  | (_, .function _) => none
  | (name, .other typeName) => some ⟨name, typeName⟩

/-- An offer is accepted just if it is a function. -/
theorem refusal?_eq_none_iff {offer : String × Offer} :
    refusal? offer = none ↔ ∃ f, offer.2 = .function f := by
  obtain ⟨name, f | typeName⟩ := offer <;> simp [refusal?]

/-- An offer is refused under its own name, for what it is. -/
theorem refusal?_eq_some_iff {offer : String × Offer} {fault : NotApplicable} :
    refusal? offer = some fault ↔ offer = (fault.name, .other fault.typeName) := by
  obtain ⟨name, f | typeName⟩ := offer
  · simp [refusal?]
  · obtain ⟨faultName, faultType⟩ := fault
    simp [refusal?]

/-- A table with all functions that are offered, one after another. -/
def putAll (table : FunctionTable) (offers : List (String × Offer)) : FunctionTable :=
  offers.foldl (fun table offer => offer.2.function?.elim table (table.put offer.1)) table

/-- Going through offers ends with the first refusal, or with a table that has taken all of them. -/
theorem foldlM_accept (offers : List (String × Offer)) (table : FunctionTable) :
    offers.foldlM accept table =
      (offers.findSome? refusal?).elim (.ok (table.putAll offers)) .error := by
  induction offers generalizing table with
  | nil => rfl
  | cons offer offers ih =>
    obtain ⟨name, f | typeName⟩ := offer
    · exact ih (table.put name f)
    · rfl

/-- What is offered under a name is found under it, and nothing else is changed. -/
theorem find?_putAll (h : (offers.map (·.1)).Nodup) (table : FunctionTable) (name : String) :
    (table.putAll offers).find? name =
      ((offers.lookup name).bind Offer.function?).or (table.find? name) := by
  -- by induction on the offers, for every table that they are put into
  induction offers generalizing table with
  | nil => simp [putAll]
  | cons offer offers ih =>
    obtain ⟨own, offered⟩ := offer
    obtain ⟨hown, hrest⟩ := List.nodup_cons.1 h
    have hstep : putAll table ((own, offered) :: offers) =
        putAll (offered.function?.elim table (table.put own)) offers := rfl
    rw [hstep, ih hrest]
    by_cases hname : name = own
    · -- the name is not offered again, so what is put there now is found in the end
      subst hname
      have hnone : offers.lookup name = none := by
        rw [List.lookup_eq_none_iff]
        intro other hother
        rw [bne_iff_ne]
        rintro rfl
        exact hown (List.mem_map.2 ⟨other, hother, rfl⟩)
      rw [hnone, List.lookup_cons_self]
      cases offered with
      | function f => simp [Offer.function?, find?_put]
      | other typeName => simp [Offer.function?]
    · have hskip : (offered.function?.elim table (table.put own)).find? name =
          table.find? name := by
        cases offered with
        | function f => simp [Offer.function?, find?_put, hname]
        | other typeName => rfl
      rw [hskip, List.lookup_cons, beq_eq_false_iff_ne.2 hname]

/-- The names that were there stay in their places, and the new ones follow in the order of the
offers. -/
theorem names_putAll (h : (offers.map (·.1)).Nodup)
    (hall : ∀ offer ∈ offers, refusal? offer = none) (table : FunctionTable) :
    (table.putAll offers).names =
      table.names ++ (offers.map (·.1)).filter fun name => !table.names.contains name := by
  induction offers generalizing table with
  | nil => simp [putAll]
  | cons offer offers ih =>
    obtain ⟨own, offered⟩ := offer
    obtain ⟨hown, hrest⟩ := List.nodup_cons.1 h
    obtain ⟨hfirst, hothers⟩ := List.forall_mem_cons.1 hall
    obtain ⟨f, rfl⟩ : ∃ f, offered = .function f := refusal?_eq_none_iff.1 hfirst
    show (putAll (table.put own f) offers).names = _
    rw [ih hrest hothers, names_put, List.map_cons, List.filter_cons]
    by_cases hthere : table.names.contains own
    · simp only [hthere, if_true, Bool.not_true, Bool.false_eq_true, if_false]
    · -- the new name is in the way of no other one
      have hsame : (offers.map (·.1)).filter (fun name => !(table.names ++ [own]).contains name) =
          (offers.map (·.1)).filter fun name => !table.names.contains name := by
        refine List.filter_congr fun name hname => ?_
        have hne : name ≠ own := fun heq => hown (heq ▸ hname)
        simp [hne]
      simp only [hthere, Bool.false_eq_true, if_false, Bool.not_false, if_true, hsame,
        List.append_assoc, List.singleton_append]

/-! ### Offers in the order of their names -/

/-- Offers under different names are gone through in strictly increasing order. -/
theorem pairwise_mergeSort (h : (offers.map (·.1)).Nodup) :
    (offers.mergeSort fun a b => a.1 ≤ b.1).Pairwise fun a b => a.1 < b.1 := by
  have hsorted := @List.pairwise_mergeSort (String × Offer) (fun a b => decide (a.1 ≤ b.1))
    (fun a b c hab hbc => by simp only [decide_eq_true_eq] at *; exact le_trans hab hbc)
    (fun a b => by simpa using le_total a.1 b.1) offers
  have hnodup : ((offers.mergeSort fun a b => a.1 ≤ b.1).map (·.1)).Nodup :=
    ((List.mergeSort_perm _ _).map _).nodup_iff.2 h
  refine (hsorted.and (List.pairwise_map.1 hnodup)).imp ?_
  rintro a b ⟨hle, hne⟩
  exact lt_of_le_of_ne (by simpa using hle) hne

/-- Sorting by name makes no name repeat. -/
theorem nodup_mergeSort (h : (offers.map (·.1)).Nodup) :
    ((offers.mergeSort fun a b => a.1 ≤ b.1).map (·.1)).Nodup :=
  ((List.mergeSort_perm _ _).map _).nodup_iff.2 h

/-- The order in which offers were made does not matter. -/
theorem mergeSort_eq_of_perm (h : (offers.map (·.1)).Nodup) (hperm : offers.Perm others) :
    (others.mergeSort fun a b => a.1 ≤ b.1) = offers.mergeSort fun a b => a.1 ≤ b.1 := by
  refine List.Perm.eq_of_pairwise ?_
    (pairwise_mergeSort ((hperm.map _).nodup_iff.1 h)) (pairwise_mergeSort h) ?_
  · exact fun a b _ _ hab hba => absurd hba (lt_asymm hab)
  · exact (List.mergeSort_perm _ _).trans (hperm.symm.trans (List.mergeSort_perm _ _).symm)

/-- In a list with increasing names, the first refusal is the one with the least name. -/
theorem findSome?_refusal?_eq_some_iff (h : offers.Pairwise fun a b => a.1 < b.1)
    {fault : NotApplicable} :
    offers.findSome? refusal? = some fault ↔
      (fault.name, .other fault.typeName) ∈ offers ∧
        ∀ name typeName, (name, .other typeName) ∈ offers → fault.name ≤ name := by
  induction offers with
  | nil => simp
  | cons offer offers ih =>
    obtain ⟨hfirst, hrest⟩ := List.pairwise_cons.1 h
    rw [List.findSome?_cons]
    cases hrefusal : refusal? offer with
    | none =>
      -- an offer that can be applied is none of those that the right side speaks of
      obtain ⟨f, hf⟩ := refusal?_eq_none_iff.1 hrefusal
      have hskip : ∀ name typeName,
          ((name, .other typeName) ∈ offer :: offers ↔ (name, .other typeName) ∈ offers) := by
        intro name typeName
        simp only [List.mem_cons, or_iff_right_iff_imp]
        rintro rfl
        cases hf
      simp only [ih hrest, hskip]
    | some first =>
      obtain rfl := refusal?_eq_some_iff.1 hrefusal
      -- the first refusal; all names behind it are greater
      constructor
      · rintro ⟨rfl⟩
        refine ⟨List.mem_cons_self, fun name typeName hmem => ?_⟩
        rcases List.mem_cons.1 hmem with heq | hmem
        · exact (congrArg Prod.fst heq).ge
        · exact (hfirst _ hmem).le
      · rintro ⟨hmem, hleast⟩
        rcases List.mem_cons.1 hmem with heq | hmem
        · simp only [Prod.mk.injEq, Offer.other.injEq] at heq
          obtain ⟨firstName, firstType⟩ := first
          obtain ⟨rfl, rfl⟩ := heq
          rfl
        · exact absurd (hleast _ _ List.mem_cons_self) (not_le.2 (hfirst _ hmem))

/-! ### Merging -/

/-- Merging looks for a refusal first, in the order of the names, and then puts all functions in. -/
theorem merge_eq (offers : List (String × Offer)) :
    merge offers =
      ((offers.mergeSort fun a b => a.1 ≤ b.1).findSome? refusal?).elim
        (.ok (conventions.putAll (offers.mergeSort fun a b => a.1 ≤ b.1))) .error :=
  foldlM_accept _ _

/-- Merging is refused for the first offer that is. -/
theorem merge_eq_error_iff {fault : NotApplicable} :
    merge offers = .error fault ↔
      (offers.mergeSort fun a b => a.1 ≤ b.1).findSome? refusal? = some fault := by
  rw [merge_eq]
  cases (offers.mergeSort fun a b => a.1 ≤ b.1).findSome? refusal? with
  | none => simp
  | some first => simp

/-- Merging succeeds just if all offers are functions, and the merged table is the usual one with
these put in. -/
theorem merge_eq_ok_iff {merged : FunctionTable} :
    merge offers = .ok merged ↔ (∀ offer ∈ offers, ∃ f, offer.2 = .function f) ∧
      merged = conventions.putAll (offers.mergeSort fun a b => a.1 ≤ b.1) := by
  have hall : (offers.mergeSort fun a b => a.1 ≤ b.1).findSome? refusal? = none ↔
      ∀ offer ∈ offers, ∃ f, offer.2 = .function f := by
    simp only [List.findSome?_eq_none_iff, List.mem_mergeSort, refusal?_eq_none_iff]
  rw [merge_eq, ← hall]
  cases (offers.mergeSort fun a b => a.1 ≤ b.1).findSome? refusal? with
  | none => simp [eq_comm]
  | some first => simp

/-- Whether merging succeeds depends on nothing but the sorts of the offers. -/
theorem merge_isOk_iff :
    (∃ merged, merge offers = .ok merged) ↔ ∀ offer ∈ offers, ∃ f, offer.2 = .function f := by
  simp only [merge_eq_ok_iff, exists_and_left, exists_eq, and_true]

theorem nodup_names_conventions : conventions.names.Nodup := by decide +kernel

/-- What is offered under different names is refused just if some of it cannot be applied, and then
for the least of these names.  Otherwise each offer is found under its name and each convention
under its own if nothing else was offered for it.  The names are those of the conventions, in their
places, and behind them the new ones in increasing order.  The order of the offers does not matter
for any of this. -/
theorem merge_overrides (h : (offers.map (·.1)).Nodup) :
    (∀ fault, merge offers = .error fault ↔
      (fault.name, .other fault.typeName) ∈ offers ∧
        ∀ name typeName, (name, .other typeName) ∈ offers → fault.name ≤ name) ∧
    ((∃ merged, merge offers = .ok merged) ↔ ∀ offer ∈ offers, ∃ f, offer.2 = .function f) ∧
    (∀ merged, merge offers = .ok merged →
      (∀ name f, (name, .function f) ∈ offers → merged.find? name = some f) ∧
      (∀ name, name ∉ offers.map (·.1) → merged.find? name = conventions.find? name) ∧
      merged.names.Nodup ∧
      ∃ fresh, merged.names = conventions.names ++ fresh ∧ fresh.Pairwise (· < ·) ∧
        ∀ name, name ∈ fresh ↔ name ∈ offers.map (·.1) ∧ name ∉ conventions.names) ∧
    ∀ others, offers.Perm others → merge others = merge offers := by
  have hnodup := nodup_mergeSort h
  have hsame : ∀ offer, offer ∈ offers.mergeSort (fun a b => a.1 ≤ b.1) ↔ offer ∈ offers :=
    fun _ => List.mem_mergeSort
  refine ⟨fun fault => ?_, merge_isOk_iff, fun merged hmerged => ?_, fun others hperm => ?_⟩
  · -- refusals are found in the order of names
    rw [merge_eq_error_iff, findSome?_refusal?_eq_some_iff (pairwise_mergeSort h)]
    simp only [hsame]
  · obtain ⟨hall, rfl⟩ := merge_eq_ok_iff.1 hmerged
    have hnames := names_putAll hnodup
      (fun offer hoffer => refusal?_eq_none_iff.2 (hall offer ((hsame offer).1 hoffer))) conventions
    have hfresh : ((offers.mergeSort fun a b => a.1 ≤ b.1).map (·.1)).Pairwise (· < ·) :=
      List.pairwise_map.2 (pairwise_mergeSort h)
    refine ⟨fun name f hmem => ?_, fun name hname => ?_, ?_, _, hnames, hfresh.filter _,
      fun name => ?_⟩
    · -- each name is offered once, so what is offered under it is what was put there
      rw [find?_putAll hnodup, lookup_eq_some_of_mem hnodup ((hsame _).2 hmem)]
      rfl
    · rw [find?_putAll hnodup, List.lookup_eq_none_iff.2]
      · rfl
      · intro offer hoffer
        rw [bne_iff_ne]
        rintro rfl
        exact hname (List.mem_map.2 ⟨offer, (hsame offer).1 hoffer, rfl⟩)
    · rw [hnames, List.nodup_append]
      refine ⟨nodup_names_conventions, hnodup.filter _, ?_⟩
      rintro name hname other hother rfl
      simp [hname] at hother
    · simp [hsame]
  · rw [merge, merge, mergeSort_eq_of_perm h hperm]

/-- A function that calls its text out. -/
def bang : TextFunction := { call := "bang", apply := fun s => .ok (s ++ "!") }

/-- Offers of which two cannot be applied, the later of them under the lesser name. -/
def mixedOffers : List (String × Offer) :=
  [("zip", .other "int"), ("camel_case", .function bang), ("axis", .other "str")]

/-- Offers under a new name and under that of a convention. -/
def soundOffers : List (String × Offer) := [("camel_case", .function bang), ("zip", .function bang)]

/-- The mixed offers are refused for the lesser of the two names.  From the sound ones comes a table
with a new name behind the conventions, one of which is replaced in its place. -/
theorem merge_overrides_mixed :
    (mixedOffers.map (·.1)).Nodup ∧ merge mixedOffers = .error ⟨"axis", "str"⟩ ∧
      (soundOffers.map (·.1)).Nodup ∧ ∃ merged, merge soundOffers = .ok merged ∧
        merged.names = ["upper_first", "lower_first", "snake_case", "screaming_snake_case",
          "pascal_case", "camel_case", "zip"] ∧
        merged.find? "camel_case" = some bang ∧ merged.find? "zip" = some bang ∧
        merged.find? "snake_case" = conventions.find? "snake_case" := by
  have hmixed : (mixedOffers.map (·.1)).Nodup := by decide
  have hsound : (soundOffers.map (·.1)).Nodup := by decide
  refine ⟨hmixed, ((merge_overrides hmixed).1 ⟨"axis", "str"⟩).2 ⟨by simp [mixedOffers], ?_⟩,
    hsound, ?_⟩
  · intro name typeName hmem
    obtain ⟨rfl, -⟩ | ⟨rfl, -⟩ : name = "zip" ∧ _ ∨ name = "axis" ∧ _ := by
      simpa [mixedOffers] using hmem
    · decide
    · exact le_refl _
  · have hok : ∃ merged, merge soundOffers = .ok merged :=
      (merge_overrides hsound).2.1.2 (by simp [soundOffers])
    obtain ⟨merged, hmerged⟩ := hok
    obtain ⟨hoffered, hkept, -⟩ := (merge_overrides hsound).2.2.1 merged hmerged
    refine ⟨merged, hmerged, ?_, hoffered _ _ (by simp [soundOffers]),
      hoffered _ _ (by simp [soundOffers]), hkept _ (by decide)⟩
    obtain ⟨-, rfl⟩ := merge_eq_ok_iff.1 hmerged
    rw [List.mergeSort_of_pairwise (by decide)]
    decide

end FunctionTable

end MobileSchema
