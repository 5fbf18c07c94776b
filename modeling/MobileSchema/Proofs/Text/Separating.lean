import MobileSchema.Proofs.Text.Joining

/-!
# Names with separated words

`snake_case` and `screaming_snake_case` write the words of a name in one case and put an underscore
between neighbours.  The texts that come out are described by a grammar (`IsSeparated`): nothing at
all, or pieces of letters of this case or of digits, with single underscores between them.

Such a text falls apart into its pieces (`words_intercalate`), and each of them is in the right case
already, so the form keeps it.  Conversely words in one case are pieces.  Hence the same texts are
kept by the form and come out of it (`CaseForm.separated_eq_iff`, `CaseForm.exists_separated_iff`),
for both cases by one argument (`CaseForm`).
-/

namespace MobileSchema

variable {letter : Char → Bool} {form : List Char → List Char} {cs w : List Char}
  {ws : List (List Char)}

/-! ### The grammar -/

/-- A piece of a name with separated words: letters of one case, or digits. -/
structure IsPiece (letter : Char → Bool) (w : List Char) : Prop where
  ne_nil : w ≠ []
  alike : (∀ c ∈ w, letter c = true) ∨ ∀ c ∈ w, isDigit c = true

/-- Pieces with single underscores between them. -/
inductive ArePieces (letter : Char → Bool) : List Char → Prop
  | last {w : List Char} (hw : IsPiece letter w) : ArePieces letter w
  | next {w cs : List Char} (hw : IsPiece letter w) (h : ArePieces letter cs) :
      ArePieces letter (w ++ '_' :: cs)

/-- Whether a text is a name with separated words, in one case. -/
def IsSeparated (letter : Char → Bool) (cs : List Char) : Prop := cs = [] ∨ ArePieces letter cs

/-- A name with separated words is put together from pieces with underscores. -/
theorem ArePieces.exists_intercalate (h : ArePieces letter cs) :
    ∃ w ws, (∀ v ∈ w :: ws, IsPiece letter v) ∧ cs = ['_'].intercalate (w :: ws) := by
  induction h with
  | @last w hw => exact ⟨w, [], by simpa using hw, List.intercalate_singleton.symm⟩
  | @next w _ hw _ ih =>
    obtain ⟨v, vs, hvs, rfl⟩ := ih
    refine ⟨w, v :: vs, List.forall_mem_cons.2 ⟨hw, hvs⟩, ?_⟩
    rw [List.intercalate_cons_cons, List.append_assoc]
    rfl

/-- Pieces with underscores between them are a name with separated words. -/
theorem arePieces_intercalate (hw : IsPiece letter w) (hws : ∀ v ∈ ws, IsPiece letter v) :
    ArePieces letter (['_'].intercalate (w :: ws)) := by
  induction ws generalizing w with
  | nil =>
    rw [List.intercalate_singleton]
    exact .last hw
  | cons v ws ih =>
    obtain ⟨hv, hws⟩ := List.forall_mem_cons.1 hws
    rw [List.intercalate_cons_cons, List.append_assoc]
    exact .next hw (ih hv hws)

/-- The texts of the grammar are joined pieces. -/
theorem isSeparated_iff :
    IsSeparated letter cs ↔ ∃ ws, (∀ w ∈ ws, IsPiece letter w) ∧ cs = ['_'].intercalate ws := by
  constructor
  · rintro (rfl | h)
    · exact ⟨[], by simp, rfl⟩
    · obtain ⟨w, ws, hws, rfl⟩ := h.exists_intercalate
      exact ⟨w :: ws, hws, rfl⟩
  · rintro ⟨ws, hws, rfl⟩
    cases ws with
    | nil => exact .inl rfl
    | cons w ws =>
      obtain ⟨hw, hws⟩ := List.forall_mem_cons.1 hws
      exact .inr (arePieces_intercalate hw hws)

/-! ### Words in one case -/

/-- What it means that a form puts words into the case of some letters. -/
structure CaseForm (letter : Char → Bool) (form : List Char → List Char) : Prop where
  isPiece : ∀ {w}, IsWord w → IsPiece letter (form w)
  isUniform : ∀ {w}, IsPiece letter w → IsUniform w
  keeps : ∀ {w}, IsPiece letter w → form w = w

theorem map_eq_self {f : Char → Char} (h : ∀ c ∈ w, f c = c) : w.map f = w :=
  (List.map_congr_left h).trans (List.map_id w)

theorem IsPiece.isUniform_of_isLower (h : IsPiece Char.isLower w) : IsUniform w :=
  ⟨h.ne_nil, h.alike.imp id .inr⟩

theorem IsPiece.isUniform_of_isUpper (h : IsPiece Char.isUpper w) : IsUniform w :=
  ⟨h.ne_nil, .inr h.alike⟩

/-- Small letters put words into one case. -/
theorem caseForm_lowerText : CaseForm Char.isLower lowerText where
  isPiece := by
    intro w h
    refine ⟨h.uniform_lowerText.1, ?_⟩
    rcases h.isDigits_or_letters with hnumber | ⟨-, hletters⟩
    · rw [h.lowerText_of_isDigits hnumber]
      exact .inr (isDigits_iff.1 hnumber)
    · rw [h.lowerText_eq]
      exact .inl (List.forall_mem_map.2 fun c hc => isLower_toLower_of_letter (hletters c hc))
  isUniform := fun h => h.isUniform_of_isLower
  keeps := by
    intro w h
    rw [lowerText_eq_map h.isUniform_of_isLower.standsInWord]
    refine map_eq_self fun c hc => toLower_of_not_isUpper ?_
    rcases h.alike with hlower | hdigits
    · exact isUpper_eq_false_of_isLower (hlower c hc)
    · exact isUpper_eq_false_of_isDigit (hdigits c hc)

theorem caseForm_upperText : CaseForm Char.isUpper upperText where
  isPiece := by
    intro w h
    refine ⟨h.uniform_upperText.1, ?_⟩
    rw [h.upperText_eq]
    rcases h.letters_or_digits with hletters | hdigits
    · exact .inl (List.forall_mem_map.2 fun c hc => isUpper_toUpper_of_letter (hletters c hc))
    · refine .inr (List.forall_mem_map.2 fun c hc => ?_)
      rw [toUpper_of_not_isLower (isLower_eq_false_of_isDigit (hdigits c hc))]
      exact hdigits c hc
  isUniform := fun h => h.isUniform_of_isUpper
  keeps := by
    intro w h
    rw [upperText_eq_map h.isUniform_of_isUpper.standsInWord]
    refine map_eq_self fun c hc => toUpper_of_not_isLower ?_
    rcases h.alike with hupper | hdigits
    · exact isLower_eq_false_of_isUpper (hupper c hc)
    · exact isLower_eq_false_of_isDigit (hdigits c hc)

namespace CaseForm

/-- Words in one case, joined by underscores, are a text of the grammar. -/
theorem isSeparated (h : CaseForm letter form) (cs : List Char) :
    IsSeparated letter (['_'].intercalate ((words cs).map form)) :=
  isSeparated_iff.2 ⟨_, List.forall_mem_map.2 fun _ hw => h.isPiece (isWord_of_mem_words hw), rfl⟩

/-- The texts of the grammar are those that are kept. -/
theorem separated_eq_iff (h : CaseForm letter form) :
    ['_'].intercalate ((words cs).map form) = cs ↔ IsSeparated letter cs := by
  constructor
  · intro hkept
    rw [← hkept]
    exact h.isSeparated cs
  · intro hcs
    obtain ⟨ws, hws, rfl⟩ := isSeparated_iff.1 hcs
    have hkept : ws.map form = ws := by
      conv_rhs => rw [← List.map_id ws]
      exact List.map_congr_left fun w hw => h.keeps (hws w hw)
    rw [words_intercalate fun w hw => h.isUniform (hws w hw), hkept]

/-- The texts of the grammar are those that come out. -/
theorem exists_separated_iff (h : CaseForm letter form) :
    (∃ ds, ['_'].intercalate ((words ds).map form) = cs) ↔ IsSeparated letter cs := by
  constructor
  · rintro ⟨ds, rfl⟩
    exact h.isSeparated ds
  · exact fun hcs => ⟨cs, h.separated_eq_iff.2 hcs⟩

end CaseForm

namespace Convention

/-- A convention keeps a text just if it keeps its characters. -/
theorem apply_eq_self_iff {convention : Convention} {s : String} :
    convention.apply s = s ↔ convention.applyChars s.toList = s.toList := by
  rw [apply, ← String.toList_inj, String.toList_ofList]

/-- A text comes out of a convention just if its characters do. -/
theorem exists_apply_eq_iff {convention : Convention} {s : String} :
    (∃ name, convention.apply name = s) ↔ ∃ ds, convention.applyChars ds = s.toList := by
  simp only [apply, ← String.toList_inj, String.toList_ofList]
  constructor
  · rintro ⟨name, h⟩
    exact ⟨name.toList, h⟩
  · rintro ⟨ds, h⟩
    exact ⟨String.ofList ds, by rw [String.toList_ofList, h]⟩

/-- A text is kept by `snake_case` exactly if it is empty or of pieces of small letters or of digits
with single underscores between them, and these are the texts that come out of it.  For
`screaming_snake_case` the same holds with capitals. -/
theorem separated_iff (s : String) :
    (snake.apply s = s ↔ IsSeparated Char.isLower s.toList) ∧
    ((∃ name, snake.apply name = s) ↔ IsSeparated Char.isLower s.toList) ∧
    (screamingSnake.apply s = s ↔ IsSeparated Char.isUpper s.toList) ∧
    ((∃ name, screamingSnake.apply name = s) ↔ IsSeparated Char.isUpper s.toList) := by
  rw [apply_eq_self_iff, exists_apply_eq_iff, apply_eq_self_iff, exists_apply_eq_iff]
  exact ⟨caseForm_lowerText.separated_eq_iff, caseForm_lowerText.exists_separated_iff,
    caseForm_upperText.separated_eq_iff, caseForm_upperText.exists_separated_iff⟩

/-- Underscores at an end or side by side are dropped, and letters are kept apart from digits. -/
example : snake.apply "_a__b2_" = "a_b_2" ∧ snake.apply "a_b_2" = "a_b_2" := by decide +kernel

end Convention

end MobileSchema
