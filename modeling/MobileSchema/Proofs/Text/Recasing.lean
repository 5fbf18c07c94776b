import MobileSchema.Proofs.Text.Splitting
import MobileSchema.Text.Naming

/-!
# Words in another case

The characters of words are letters of ASCII and decimal digits.  On them the full case maps are the
maps of ASCII: no digit of any script has a case (`caseImage_of_isDigit`), and no capital sigma is
among them, so that what surrounds a character does not matter.  A word is thus put into lower or
upper case character by character (`lowerText_eq_map`, `upperText_eq_map`), stays a word, and has
the same forms in whatever case it is given (`IsWord.upperText_lowerText` and its companions).
-/

namespace MobileSchema

variable {c : Char} {w : List Char}

/-! ### The case of ASCII -/

/-- Small letters are thirty-two places behind the capitals. -/
theorem toNat_toLower (c : Char) :
    c.toLower.toNat = if c.isUpper then c.toNat + 32 else c.toNat := by
  have hval : c.val.toNat = c.toNat := rfl
  show (dite (c.val ≥ 'A'.val ∧ c.val ≤ 'Z'.val) _ _ : Char).toNat = _
  by_cases h : c.isUpper = true
  · have hbounds := isUpper_iff.1 h
    have hgap : ('a'.val - 'A'.val).toNat = 32 := by decide
    rw [if_pos h, dif_pos (of_decide_eq_true h)]
    show (c.val + ('a'.val - 'A'.val)).toNat = c.toNat + 32
    rw [UInt32.toNat_add]
    omega
  · rw [if_neg h, dif_neg fun hcond => h (decide_eq_true hcond)]

theorem toNat_toUpper (c : Char) :
    c.toUpper.toNat = if c.isLower then c.toNat - 32 else c.toNat := by
  have hval : c.val.toNat = c.toNat := rfl
  have hcond : 'a'.val ≤ c.val ∧ c.val ≤ 'z'.val ↔ c.isLower = true := by
    rw [isLower_iff, UInt32.le_iff_toNat_le, UInt32.le_iff_toNat_le]
    rfl
  show (dite ('a'.val ≤ c.val ∧ c.val ≤ 'z'.val) _ _ : Char).toNat = _
  by_cases h : c.isLower = true
  · have hbounds := isLower_iff.1 h
    have hgap : ('A'.val - 'a'.val).toNat = 2 ^ 32 - 32 := by decide
    rw [if_pos h, dif_pos (hcond.2 h)]
    show (c.val + ('A'.val - 'a'.val)).toNat = c.toNat - 32
    rw [UInt32.toNat_add]
    omega
  · rw [if_neg h, dif_neg fun hlower => h (hcond.1 hlower)]

theorem toLower_of_not_isUpper (h : c.isUpper = false) : c.toLower = c := by
  rw [← Char.toNat_inj, toNat_toLower, h]
  rfl

theorem toUpper_of_not_isLower (h : c.isLower = false) : c.toUpper = c := by
  rw [← Char.toNat_inj, toNat_toUpper, h]
  rfl

theorem isLower_toLower (h : c.isUpper = true) : c.toLower.isLower = true := by
  have hbounds := isUpper_iff.1 h
  rw [isLower_iff, toNat_toLower, if_pos h]
  omega

theorem isUpper_toUpper (h : c.isLower = true) : c.toUpper.isUpper = true := by
  have hbounds := isLower_iff.1 h
  rw [isUpper_iff, toNat_toUpper, if_pos h]
  omega

theorem toUpper_toLower (c : Char) : c.toLower.toUpper = c.toUpper := by
  by_cases h : c.isUpper = true
  · rw [toUpper_of_not_isLower (isLower_eq_false_of_isUpper h), ← Char.toNat_inj, toNat_toUpper,
      if_pos (isLower_toLower h), toNat_toLower, if_pos h, Nat.add_sub_cancel]
  · rw [toLower_of_not_isUpper (Bool.not_eq_true _ ▸ h)]

theorem toLower_toUpper (c : Char) : c.toUpper.toLower = c.toLower := by
  by_cases h : c.isLower = true
  · have hbounds := isLower_iff.1 h
    rw [toLower_of_not_isUpper (isUpper_eq_false_of_isLower h), ← Char.toNat_inj, toNat_toLower,
      if_pos (isUpper_toUpper h), toNat_toUpper, if_pos h]
    omega
  · rw [toUpper_of_not_isLower (Bool.not_eq_true _ ▸ h)]

theorem toLower_toLower (c : Char) : c.toLower.toLower = c.toLower := by
  by_cases h : c.isUpper = true
  · exact toLower_of_not_isUpper (isUpper_eq_false_of_isLower (isLower_toLower h))
  · rw [Bool.not_eq_true] at h
    rw [toLower_of_not_isUpper h, toLower_of_not_isUpper h]

/-! ### The case of digits -/

/-- Whether the rows of a case map pass over the digits of all scripts. -/
def missesDigits (rows : List (Nat × Nat × Nat × Int)) (expansions : List (Nat × List Nat)) : Bool :=
  digitZeros.all fun z =>
    rows.all (fun row => row.2.1 < z || z + 10 ≤ row.1) &&
      expansions.all fun entry => entry.1 < z || z + 10 ≤ entry.1

/-- A table of cases that has no digits in it leaves digits alone. -/
theorem caseImage_of_isDigit {rows : List (Nat × Nat × Nat × Int)}
    {expansions : List (Nat × List Nat)} (h : missesDigits rows expansions = true)
    (hc : isDigit c = true) : caseImage rows expansions c = [c] := by
  simp only [isDigit, List.any_eq_true, Bool.and_eq_true, decide_eq_true_eq] at hc
  -- the digit is one of ten in a row, and the table has none of these ten
  obtain ⟨z, hz, hle, hlt⟩ := hc
  simp only [missesDigits, List.all_eq_true, Bool.and_eq_true, Bool.or_eq_true,
    decide_eq_true_eq] at h
  obtain ⟨hrows, hexpansions⟩ := h z hz
  have hexpansion : expansions.find? (fun entry => decide (entry.1 = c.toNat)) = none := by
    rw [List.find?_eq_none]
    intro entry hentry
    have := hexpansions entry hentry
    simp only [decide_eq_true_eq]
    omega
  rw [caseImage, hexpansion]
  dsimp only
  split
  · rename_i first last step distance hfind
    have hmisses : last < z ∨ z + 10 ≤ first := hrows _ (List.mem_of_find?_eq_some hfind)
    have hcovers := List.find?_some hfind
    simp only [Bool.and_eq_true, decide_eq_true_eq] at hcovers
    omega
  · rfl

/-- No digit of any script has a capital form. -/
theorem missesDigits_upper : missesDigits upperRows upperExpansions = true := by decide +kernel

theorem missesDigits_lower : missesDigits lowerRows lowerExpansions = true := by decide +kernel

/-! ### The case of words -/

/-- On characters of words the full mapping to small letters is the plain one. -/
theorem lowerChar_of_standsInWord (h : standsInWord c = true) : lowerChar c = [c.toLower] := by
  rw [lowerChar]
  split
  · rfl
  next hfar =>
    rcases standsInWord_iff.1 h with hu | hl | hdigit
    · have := isUpper_iff.1 hu
      omega
    · have := isLower_iff.1 hl
      omega
    · rw [caseImage_of_isDigit missesDigits_lower hdigit,
        toLower_of_not_isUpper (isUpper_eq_false_of_isDigit hdigit)]

theorem upperChar_of_standsInWord (h : standsInWord c = true) : upperChar c = [c.toUpper] := by
  rw [upperChar]
  split
  · rfl
  next hfar =>
    rcases standsInWord_iff.1 h with hu | hl | hdigit
    · have := isUpper_iff.1 hu
      omega
    · have := isLower_iff.1 hl
      omega
    · rw [caseImage_of_isDigit missesDigits_upper hdigit,
        toUpper_of_not_isLower (isLower_eq_false_of_isDigit hdigit)]

/-- Small letters are made character by character. -/
theorem lowerText_eq_map (h : ∀ c ∈ w, standsInWord c = true) :
    lowerText w = w.map Char.toLower := by
  have hafter : ∀ before, lowerTextAfter before w = w.map Char.toLower := by
    induction w with
    | nil => exact fun _ => rfl
    | cons c cs ih =>
      obtain ⟨hc, hcs⟩ := List.forall_mem_cons.1 h
      have hsigma : c ≠ 'Σ' := by
        rintro rfl
        revert hc
        decide
      intro before
      rw [lowerTextAfter, ih hcs, lowerAt, if_neg hsigma, lowerChar_of_standsInWord hc]
      rfl
  exact hafter []

theorem upperText_eq_map (h : ∀ c ∈ w, standsInWord c = true) :
    upperText w = w.map Char.toUpper := by
  induction w with
  | nil => rfl
  | cons c cs ih =>
    obtain ⟨hc, hcs⟩ := List.forall_mem_cons.1 h
    rw [upperText, List.flatMap_cons, upperChar_of_standsInWord hc]
    exact congrArg (c.toUpper :: ·) (ih hcs)

/-! ### Words in lower or upper case -/

/-- Whether a text is a word of characters of one sort. -/
def IsUniform (w : List Char) : Prop :=
  w ≠ [] ∧ ((∀ c ∈ w, c.isLower = true) ∨ (∀ c ∈ w, c.isUpper = true) ∨ ∀ c ∈ w, isDigit c = true)

namespace IsWord

/-- A word has letters only or digits only. -/
theorem letters_or_digits (h : IsWord w) :
    (∀ c ∈ w, c.isUpper = true ∨ c.isLower = true) ∨ ∀ c ∈ w, isDigit c = true := by
  obtain ⟨first, rest, rfl⟩ := List.exists_cons_of_ne_nil h.ne_nil
  cases hfirst : isDigit first with
  | true => exact .inr fun c hc => (h.alike c hc first (by simp)).trans hfirst
  | false =>
    refine .inl fun c hc => ?_
    have hc' : isDigit c = false := (h.alike c hc first (by simp)).trans hfirst
    simpa [standsInWord_iff, hc'] using h.standsInWord c hc

theorem lowerText_eq (h : IsWord w) : lowerText w = w.map Char.toLower :=
  lowerText_eq_map h.standsInWord

theorem upperText_eq (h : IsWord w) : upperText w = w.map Char.toUpper :=
  upperText_eq_map h.standsInWord

/-- A word in small letters is uniform. -/
theorem uniform_lowerText (h : IsWord w) : IsUniform (lowerText w) := by
  rw [h.lowerText_eq]
  refine ⟨by simpa using h.ne_nil, ?_⟩
  simp only [List.forall_mem_map]
  rcases h.letters_or_digits with hletters | hdigits
  · refine .inl fun c hc => ?_
    rcases hletters c hc with hu | hl
    · exact isLower_toLower hu
    · rw [toLower_of_not_isUpper (isUpper_eq_false_of_isLower hl)]
      exact hl
  · refine .inr (.inr fun c hc => ?_)
    rw [toLower_of_not_isUpper (isUpper_eq_false_of_isDigit (hdigits c hc))]
    exact hdigits c hc

theorem uniform_upperText (h : IsWord w) : IsUniform (upperText w) := by
  rw [h.upperText_eq]
  refine ⟨by simpa using h.ne_nil, ?_⟩
  simp only [List.forall_mem_map]
  rcases h.letters_or_digits with hletters | hdigits
  · refine .inr (.inl fun c hc => ?_)
    rcases hletters c hc with hu | hl
    · rw [toUpper_of_not_isLower (isLower_eq_false_of_isUpper hu)]
      exact hu
    · exact isUpper_toUpper hl
  · refine .inr (.inr fun c hc => ?_)
    rw [toUpper_of_not_isLower (isLower_eq_false_of_isDigit (hdigits c hc))]
    exact hdigits c hc

end IsWord

theorem IsUniform.standsInWord (h : IsUniform w) : ∀ c ∈ w, standsInWord c = true := by
  intro c hc
  rcases h.2 with hl | hu | hdigit
  · exact standsInWord_iff.2 (.inr (.inl (hl c hc)))
  · exact standsInWord_iff.2 (.inl (hu c hc))
  · exact standsInWord_iff.2 (.inr (.inr (hdigit c hc)))

namespace IsWord

theorem lowerText_lowerText (h : IsWord w) : lowerText (lowerText w) = lowerText w := by
  rw [lowerText_eq_map h.uniform_lowerText.standsInWord, h.lowerText_eq, List.map_map]
  exact List.map_congr_left fun c _ => toLower_toLower c

theorem upperText_lowerText (h : IsWord w) : upperText (lowerText w) = upperText w := by
  rw [upperText_eq_map h.uniform_lowerText.standsInWord, h.lowerText_eq, h.upperText_eq,
    List.map_map]
  exact List.map_congr_left fun c _ => toUpper_toLower c

/-- Capitals in between make no difference to small letters. -/
theorem lowerText_upperText (h : IsWord w) : lowerText (upperText w) = lowerText w := by
  rw [lowerText_eq_map h.uniform_upperText.standsInWord, h.lowerText_eq, h.upperText_eq,
    List.map_map]
  exact List.map_congr_left fun c _ => toLower_toUpper c

/-- Small letters in between make no difference to a capitalized word. -/
theorem capitalized_lowerText (h : IsWord w) : capitalized (lowerText w) = capitalized w := by
  obtain ⟨first, rest, rfl⟩ := List.exists_cons_of_ne_nil h.ne_nil
  obtain ⟨hfirst, hrest⟩ := List.forall_mem_cons.1 h.standsInWord
  have hlower := h.uniform_lowerText.standsInWord
  rw [h.lowerText_eq] at hlower ⊢
  obtain ⟨hfirst', hrest'⟩ := List.forall_mem_cons.1 hlower
  simp only [List.map_cons, capitalized]
  rw [lowerText_eq_map hrest, lowerText_eq_map hrest', List.map_map,
    upperText_eq_map (List.forall_mem_singleton.2 hfirst),
    upperText_eq_map (List.forall_mem_singleton.2 hfirst')]
  simp only [List.map_cons, List.map_nil, toUpper_toLower]
  refine congrArg _ (List.map_congr_left fun c _ => toLower_toLower c)

end IsWord

end MobileSchema
