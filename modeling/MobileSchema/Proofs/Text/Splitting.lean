import MobileSchema.Text.Words

/-!
# How texts are split into words

`words` takes the longest word at the start of a text and goes on behind it.  Here the same is said
character by character: a character that stands in no word is skipped, and any other begins a word
of its own or is put before the word that comes next (`Splits`).  Which of the two happens depends
on the sorts of the character and the one behind it, and for two capitals on what follows them
(`goesOn`).

The relation and the function agree (`splits_words`, `Splits.eq_words`), so that what is to be known
about words is proved by induction on `Splits`, one case for each way in which a character is read.
Nothing but what stands between words is lost (`flatten_words`), and a word has letters only or
digits only (`isWord_of_mem_words`).
-/

namespace MobileSchema

variable {c d : Char} {cs w : List Char} {ws : List (List Char)}

/-! ### Sorts of characters -/

theorem isUpper_iff : c.isUpper = true ↔ 65 ≤ c.toNat ∧ c.toNat ≤ 90 := by
  show decide (c.val ≥ 'A'.val ∧ c.val ≤ 'Z'.val) = true ↔ _
  rw [decide_eq_true_eq, ge_iff_le, UInt32.le_iff_toNat_le, UInt32.le_iff_toNat_le]
  rfl

theorem isLower_iff : c.isLower = true ↔ 97 ≤ c.toNat ∧ c.toNat ≤ 122 := by
  show (decide (c.val ≥ 'a'.val) && decide (c.val ≤ 'z'.val)) = true ↔ _
  rw [Bool.and_eq_true, decide_eq_true_eq, decide_eq_true_eq, ge_iff_le, UInt32.le_iff_toNat_le,
    UInt32.le_iff_toNat_le]
  rfl

/-- A decimal digit is one of ASCII, or stands far behind the letters of ASCII. -/
theorem bounds_of_isDigit (h : isDigit c = true) :
    (48 ≤ c.toNat ∧ c.toNat ≤ 57) ∨ 1632 ≤ c.toNat := by
  simp only [isDigit, List.any_eq_true, Bool.and_eq_true, decide_eq_true_eq] at h
  obtain ⟨z, hz, hle, hlt⟩ := h
  have hbound : ∀ z ∈ digitZeros, z = 48 ∨ 1632 ≤ z := by decide
  rcases hbound z hz with rfl | hfar
  · omega
  · omega

theorem isLower_eq_false_of_isUpper (h : c.isUpper = true) : c.isLower = false := by
  rw [← Bool.not_eq_true, isLower_iff]
  have := isUpper_iff.1 h
  omega

theorem isUpper_eq_false_of_isLower (h : c.isLower = true) : c.isUpper = false := by
  rw [← Bool.not_eq_true, isUpper_iff]
  have := isLower_iff.1 h
  omega

theorem isUpper_eq_false_of_isDigit (h : isDigit c = true) : c.isUpper = false := by
  rw [← Bool.not_eq_true, isUpper_iff]
  have := bounds_of_isDigit h
  omega

theorem isLower_eq_false_of_isDigit (h : isDigit c = true) : c.isLower = false := by
  rw [← Bool.not_eq_true, isLower_iff]
  have := bounds_of_isDigit h
  omega

theorem isDigit_eq_false_of_isUpper (h : c.isUpper = true) : isDigit c = false := by
  rw [← Bool.not_eq_true]
  intro hdigit
  rw [isUpper_eq_false_of_isDigit hdigit] at h
  cases h

theorem isDigit_eq_false_of_isLower (h : c.isLower = true) : isDigit c = false := by
  rw [← Bool.not_eq_true]
  intro hdigit
  rw [isLower_eq_false_of_isDigit hdigit] at h
  cases h

/-- Whether a character stands in words. -/
def standsInWord (c : Char) : Bool := c.isUpper || c.isLower || isDigit c

/-- Words have letters and digits in them and nothing else. -/
theorem standsInWord_iff :
    standsInWord c = true ↔ c.isUpper = true ∨ c.isLower = true ∨ isDigit c = true := by
  simp only [standsInWord, Bool.or_eq_true, or_assoc]

/-! ### Where a word goes on -/

/-- Whether a word goes on behind a character that stands before some text. -/
def goesOn (c : Char) : List Char → Bool
  | [] => false
  | d :: cs =>
    (isDigit c && isDigit d) || (c.isLower && d.isLower) || (c.isUpper && d.isLower) ||
      (c.isUpper && d.isUpper && !startsLower cs)

/-- A capital goes on before a small letter, and before a capital that does not begin a word of its
own. -/
theorem goesOn_of_isUpper (h : c.isUpper = true) :
    goesOn c (d :: cs) = (d.isLower || (d.isUpper && !startsLower cs)) := by
  simp [goesOn, h, isLower_eq_false_of_isUpper h, isDigit_eq_false_of_isUpper h]

/-- A small letter goes on before a small letter only. -/
theorem goesOn_of_isLower (h : c.isLower = true) : goesOn c (d :: cs) = d.isLower := by
  simp [goesOn, h, isUpper_eq_false_of_isLower h, isDigit_eq_false_of_isLower h]

theorem goesOn_of_isDigit (h : isDigit c = true) : goesOn c (d :: cs) = isDigit d := by
  simp [goesOn, h, isUpper_eq_false_of_isDigit h, isLower_eq_false_of_isDigit h]

/-- Digits go on with digits, and letters with letters. -/
theorem isDigit_eq_of_goesOn (h : goesOn c (d :: cs) = true) : isDigit d = isDigit c := by
  simp only [goesOn, Bool.or_eq_true, Bool.and_eq_true] at h
  rcases h with ((⟨hc, hd⟩ | ⟨hc, hd⟩) | ⟨hc, hd⟩) | ⟨⟨hc, hd⟩, -⟩
  · rw [hc, hd]
  · rw [isDigit_eq_false_of_isLower hc, isDigit_eq_false_of_isLower hd]
  · rw [isDigit_eq_false_of_isUpper hc, isDigit_eq_false_of_isLower hd]
  · rw [isDigit_eq_false_of_isUpper hc, isDigit_eq_false_of_isUpper hd]

theorem standsInWord_of_goesOn (h : goesOn c cs = true) : standsInWord c = true := by
  cases cs with
  | nil => cases h
  | cons d cs =>
    simp only [goesOn, Bool.or_eq_true, Bool.and_eq_true] at h
    rcases h with ((⟨hc, -⟩ | ⟨hc, -⟩) | ⟨hc, -⟩) | ⟨⟨hc, -⟩, -⟩
    all_goals simp [standsInWord, hc]

theorem standsInWord_next_of_goesOn (h : goesOn c (d :: cs) = true) : standsInWord d = true := by
  simp only [goesOn, Bool.or_eq_true, Bool.and_eq_true] at h
  rcases h with ((⟨-, hd⟩ | ⟨-, hd⟩) | ⟨-, hd⟩) | ⟨⟨-, hd⟩, -⟩
  all_goals simp [standsInWord, hd]

/-! ### The word at the start -/

/-- A capital begins a word with small letters, or an acronym. -/
theorem leadingWord_of_isUpper (h : c.isUpper = true) : leadingWord (c :: cs) =
    c :: (if startsLower cs then cs.takeWhile Char.isLower else acronym cs) := by
  cases hstarts : startsLower cs <;> simp [leadingWord, acronym, h, hstarts]

theorem leadingWord_of_isLower (h : c.isLower = true) :
    leadingWord (c :: cs) = c :: cs.takeWhile Char.isLower := by
  simp [leadingWord, h, isUpper_eq_false_of_isLower h]

theorem leadingWord_of_isDigit (h : isDigit c = true) :
    leadingWord (c :: cs) = c :: cs.takeWhile isDigit := by
  simp [leadingWord, h, isUpper_eq_false_of_isDigit h, isLower_eq_false_of_isDigit h]

theorem leadingWord_of_not (h : standsInWord c = false) : leadingWord (c :: cs) = [] := by
  simp only [standsInWord, Bool.or_eq_false_iff] at h
  simp [leadingWord, h]

/-- Behind a capital, what is left of an acronym is the next word if the capital goes on. -/
theorem acronym_eq (h : c.isUpper = true) (hstarts : startsLower cs = false) :
    acronym cs = if goesOn c cs then leadingWord cs else [] := by
  cases cs with
  | nil => rfl
  | cons d cs =>
    have hd : d.isLower = false := hstarts
    rw [goesOn_of_isUpper h, hd, Bool.false_or, acronym]
    by_cases hu : d.isUpper = true
    · cases hs : startsLower cs <;> simp [leadingWord_of_isUpper, hu, hs]
    · simp [hu]

/-- The word at the start goes on as `goesOn` says, with the word at the start of the rest. -/
theorem leadingWord_cons (h : standsInWord c = true) :
    leadingWord (c :: cs) = c :: (if goesOn c cs then leadingWord cs else []) := by
  rcases standsInWord_iff.1 h with h | h | h
  · rw [leadingWord_of_isUpper h]
    -- a capital goes on into small letters, or else it is in a word of capitals
    cases hs : startsLower cs with
    | false => rw [← acronym_eq h hs]; rfl
    | true =>
      cases cs with
      | nil => cases hs
      | cons d cs =>
        have hd : d.isLower = true := hs
        simp [goesOn_of_isUpper h, leadingWord_of_isLower hd, hd]
  · rw [leadingWord_of_isLower h]
    cases cs with
    | nil => rfl
    | cons d cs =>
      rw [goesOn_of_isLower h]
      by_cases hd : d.isLower = true
      · simp [leadingWord_of_isLower hd, hd]
      · simp [hd]
  · rw [leadingWord_of_isDigit h]
    cases cs with
    | nil => rfl
    | cons d cs =>
      rw [goesOn_of_isDigit h]
      by_cases hd : isDigit d = true
      · simp [leadingWord_of_isDigit hd, hd]
      · simp [hd]

/-! ### Words, character by character -/

@[simp] theorem words_nil : words [] = [] := by rw [words]

/-- A character in no word is passed over. -/
theorem words_cons_of_not (h : standsInWord c = false) : words (c :: cs) = words cs := by
  rw [words, leadingWord_of_not h]

/-- Behind the leading word the other words are found. -/
theorem words_of_leadingWord (h : leadingWord (c :: cs) = c :: w) :
    words (c :: cs) = (c :: w) :: words (cs.drop w.length) := by
  rw [words, h]

/-- A character that does not go on is a word of its own. -/
theorem words_cons_of_stop (h : standsInWord c = true) (hstop : goesOn c cs = false) :
    words (c :: cs) = [c] :: words cs := by
  have hword := @leadingWord_cons c cs h
  rw [hstop] at hword
  exact words_of_leadingWord hword

/-- A character that goes on is put before the first word of the rest. -/
theorem words_cons_of_goesOn (h : goesOn c (d :: cs) = true) :
    ∃ w ws, words (d :: cs) = (d :: w) :: ws ∧ words (c :: d :: cs) = (c :: d :: w) :: ws := by
  have hword := @leadingWord_cons c (d :: cs) (standsInWord_of_goesOn h)
  have hnext := @leadingWord_cons d cs (standsInWord_next_of_goesOn h)
  rw [if_pos h, hnext] at hword
  exact ⟨_, _, words_of_leadingWord hnext, words_of_leadingWord hword⟩

/-- A text and its words, as they are found from the end of the text to its start. -/
inductive Splits : List Char → List (List Char) → Prop
  | nil : Splits [] []
  /-- a character in no word is skipped -/
  | skip {c : Char} {cs : List Char} {ws : List (List Char)} (hc : standsInWord c = false)
    (h : Splits cs ws) : Splits (c :: cs) ws
  /-- a character that does not go on is a word of its own -/
  | start {c : Char} {cs : List Char} {ws : List (List Char)} (hc : standsInWord c = true)
    (hstop : goesOn c cs = false) (h : Splits cs ws) : Splits (c :: cs) ([c] :: ws)
  /-- a character that goes on is put before the word that comes next -/
  | goOn {c d : Char} {cs w : List Char} {ws : List (List Char)} (hgoes : goesOn c (d :: cs) = true)
    (h : Splits (d :: cs) ((d :: w) :: ws)) : Splits (c :: d :: cs) ((c :: d :: w) :: ws)

/-- The words of a text split it. -/
theorem splits_words (cs : List Char) : Splits cs (words cs) := by
  induction cs with
  | nil => rw [words_nil]; exact .nil
  | cons c cs ih =>
    by_cases hc : standsInWord c = true
    · cases hgoes : goesOn c cs with
      | false =>
        rw [words_cons_of_stop hc hgoes]
        exact .start hc hgoes ih
      | true =>
        cases cs with
        | nil => cases hgoes
        | cons d cs =>
          obtain ⟨w, ws, hnext, hwords⟩ := words_cons_of_goesOn hgoes
          rw [hnext] at ih
          rw [hwords]
          exact .goOn hgoes ih
    · rw [Bool.not_eq_true] at hc
      rw [words_cons_of_not hc]
      exact .skip hc ih

/-- Nothing but the words of a text splits it. -/
theorem Splits.eq_words (h : Splits cs ws) : ws = words cs := by
  induction h with
  | nil => rw [words_nil]
  | skip hc _ ih => rw [words_cons_of_not hc, ih]
  | start hc hstop _ ih => rw [words_cons_of_stop hc hstop, ih]
  | goOn hgoes _ ih =>
    obtain ⟨w, ws, hnext, hwords⟩ := words_cons_of_goesOn hgoes
    rw [hnext] at ih
    obtain ⟨hw, rfl⟩ := List.cons.inj ih
    rw [hwords, (List.cons.inj hw).2]

/-! ### What is in words -/

/-- Splitting loses nothing but what stands in no word. -/
theorem Splits.flatten (h : Splits cs ws) : ws.flatten = cs.filter standsInWord := by
  induction h with
  | nil => rfl
  | skip hc _ ih => rw [List.filter_cons_of_neg (by simp [hc]), ih]
  | start hc _ _ ih => rw [List.filter_cons_of_pos hc, ← ih]; rfl
  | goOn hgoes _ ih => rw [List.filter_cons_of_pos (standsInWord_of_goesOn hgoes), ← ih]; rfl

/-- The words one after another are the text without what stands in no word. -/
theorem flatten_words (cs : List Char) : (words cs).flatten = cs.filter standsInWord :=
  (splits_words cs).flatten

/-- Whether a text is a word by the sorts of its characters: letters only, or digits only. -/
structure IsWord (w : List Char) : Prop where
  ne_nil : w ≠ []
  standsInWord : ∀ c ∈ w, standsInWord c = true
  alike : ∀ c ∈ w, ∀ d ∈ w, isDigit c = isDigit d

theorem Splits.isWord_of_mem (h : Splits cs ws) (hw : w ∈ ws) : IsWord w := by
  induction h generalizing w with
  | nil => cases hw
  | skip _ _ ih => exact ih hw
  | @start c _ _ hc _ _ ih =>
    rcases List.mem_cons.1 hw with rfl | hw
    · exact ⟨by simp, by simpa using hc, by simp⟩
    · exact ih hw
  | @goOn c d _ v vs hgoes _ ih =>
    rcases List.mem_cons.1 hw with rfl | hw
    · have hnext : IsWord (d :: v) := ih (by simp)
      -- the next character is of the same sort, and so are all behind it
      have hdigit : ∀ x ∈ c :: d :: v, isDigit x = isDigit d := by
        intro x hx
        rcases List.mem_cons.1 hx with rfl | hx
        · exact (isDigit_eq_of_goesOn hgoes).symm
        · exact hnext.alike x hx d (by simp)
      refine ⟨by simp, ?_, fun x hx y hy => (hdigit x hx).trans (hdigit y hy).symm⟩
      intro x hx
      rcases List.mem_cons.1 hx with rfl | hx
      · exact standsInWord_of_goesOn hgoes
      · exact hnext.standsInWord x hx
    · exact ih (List.mem_cons_of_mem _ hw)

theorem isWord_of_mem_words (h : w ∈ words cs) : IsWord w := (splits_words cs).isWord_of_mem h

end MobileSchema
