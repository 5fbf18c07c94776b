import MobileSchema.Proofs.Text.Recasing

/-!
# Normal forms of names

A name whose words are put into one case and joined by underscores falls apart into just these words
again (`words_intercalate`): underscores stand in no word, and a word in one case has no place at
which it could end early.  So the words of a name are kept by `snake_case` and
`screaming_snake_case`, but for their case.

All conventions that put words together depend on the words alone, and not on their case
(`Convention.applyChars_congr`).  Hence a name can be put into one of these two forms before any of
the conventions is applied, and nothing is changed by it (`Convention.apply_normalized`).
-/

namespace MobileSchema

variable {cs ds w rest : List Char} {ws : List (List Char)}

/-! ### Joined words are split again -/

/-- A word in one case, behind which no word goes on, is read as one word. -/
theorem Splits.append_uniform (hw : IsUniform w)
    (hrest : ∀ c ∈ rest.head?, standsInWord c = false) (h : Splits rest ws) :
    Splits (w ++ rest) (w :: ws) := by
  obtain ⟨hne, hsort⟩ := hw
  -- by induction on the word; that it is in one case says why each character goes on
  induction w with
  | nil => exact absurd rfl hne
  | cons c w ih =>
    have hc : standsInWord c = true := IsUniform.standsInWord ⟨hne, hsort⟩ c (by simp)
    cases w with
    | nil =>
      refine .start hc ?_ h
      -- the last character of the word: what comes next stands in no word
      cases rest with
      | nil => rfl
      | cons d rest =>
        have hd : standsInWord d = false := hrest d rfl
        rw [← Bool.not_eq_true]
        intro hgoes
        rw [standsInWord_next_of_goesOn hgoes] at hd
        cases hd
    | cons d w =>
      -- the characters before: the next one is of the same sort
      refine .goOn ?_ (ih (by simp) ?_)
      · show goesOn c (d :: (w ++ rest)) = true
        rcases hsort with hl | hu | hdigit
        · rw [goesOn_of_isLower (hl c (by simp))]
          exact hl d (by simp)
        · -- no small letter comes behind two capitals
          have hstarts : startsLower (w ++ rest) = false := by
            cases w with
            | cons e w => exact isLower_eq_false_of_isUpper (hu e (by simp))
            | nil =>
              cases rest with
              | nil => rfl
              | cons e rest =>
                have he := hrest e rfl
                simp only [MobileSchema.standsInWord, Bool.or_eq_false_iff] at he
                exact he.1.2
          rw [goesOn_of_isUpper (hu c (by simp)), hu d (by simp), hstarts]
          simp
        · rw [goesOn_of_isDigit (hdigit c (by simp))]
          exact hdigit d (by simp)
      · exact hsort.imp (fun h x hx => h x (List.mem_cons_of_mem _ hx))
          (.imp (fun h x hx => h x (List.mem_cons_of_mem _ hx))
            fun h x hx => h x (List.mem_cons_of_mem _ hx))

/-- Uniform words with underscores between them split into these words. -/
theorem splits_intercalate (h : ∀ w ∈ ws, IsUniform w) : Splits (['_'].intercalate ws) ws := by
  have hunderscore : standsInWord '_' = false := by decide
  induction ws with
  | nil => exact .nil
  | cons w ws ih =>
    obtain ⟨hw, hws⟩ := List.forall_mem_cons.1 h
    cases ws with
    | nil =>
      have hsplits : Splits (w ++ []) (w :: []) := Splits.append_uniform hw (by simp) .nil
      rw [List.append_nil] at hsplits
      rw [List.intercalate_singleton]
      exact hsplits
    | cons v ws =>
      rw [List.intercalate_cons_cons, List.append_assoc]
      exact Splits.append_uniform hw (by simp [hunderscore]) (.skip hunderscore (ih hws))

/-- Words in one case that are joined by underscores fall apart into these words. -/
theorem words_intercalate (h : ∀ w ∈ ws, IsUniform w) : words (['_'].intercalate ws) = ws :=
  (splits_intercalate h).eq_words.symm

/-- A name in snake case has its words in small letters. -/
theorem words_snakeChars (cs : List Char) : words (snakeChars cs) = (words cs).map lowerText :=
  words_intercalate (List.forall_mem_map.2 fun _ hw => (isWord_of_mem_words hw).uniform_lowerText)

theorem words_screamingChars (cs : List Char) :
    words (screamingChars cs) = (words cs).map upperText :=
  words_intercalate (List.forall_mem_map.2 fun _ hw => (isWord_of_mem_words hw).uniform_upperText)

/-! ### Words without regard to case -/

/-- The words of a text, all in lower case. -/
def plainWords (cs : List Char) : List (List Char) := (words cs).map lowerText

/-- What does not depend on case can be computed from the words up to case. -/
theorem map_plainWords {α : Type} {f : List Char → α}
    (h : ∀ w, IsWord w → f (lowerText w) = f w) (cs : List Char) :
    (plainWords cs).map f = (words cs).map f := by
  rw [plainWords, List.map_map]
  exact List.map_congr_left fun w hw => h w (isWord_of_mem_words hw)

/-- Snake case keeps the words up to case. -/
theorem plainWords_snakeChars (cs : List Char) : plainWords (snakeChars cs) = plainWords cs := by
  rw [plainWords, words_snakeChars]
  exact map_plainWords (fun _ hw => hw.lowerText_lowerText) cs

theorem plainWords_screamingChars (cs : List Char) :
    plainWords (screamingChars cs) = plainWords cs := by
  rw [plainWords, words_screamingChars, List.map_map]
  exact List.map_congr_left fun w hw => (isWord_of_mem_words hw).lowerText_upperText

theorem screamingChars_eq (cs : List Char) :
    screamingChars cs = ['_'].intercalate ((plainWords cs).map upperText) := by
  rw [screamingChars, map_plainWords fun _ hw => hw.upperText_lowerText]

theorem pascalChars_eq (cs : List Char) :
    pascalChars cs = ((plainWords cs).map capitalized).flatten := by
  rw [pascalChars, map_plainWords fun _ hw => hw.capitalized_lowerText, List.flatMap_def]

/-! ### Conventions -/

namespace Convention

/-- The conventions that put the words of a name together. -/
def ofWords : List Convention := [.snake, .screamingSnake, .pascal, .camel]

/-- The conventions that keep the words of a name apart. -/
def separating : List Convention := [.snake, .screamingSnake]

variable {f n : Convention}

/-- Texts that have the same words but for their case are put into the same form. -/
theorem applyChars_congr (hf : f ∈ ofWords) (h : plainWords cs = plainWords ds) :
    f.applyChars cs = f.applyChars ds := by
  have hpascal : pascalChars cs = pascalChars ds := by rw [pascalChars_eq, pascalChars_eq, h]
  cases f with
  | upperFirst => simp [ofWords] at hf
  | lowerFirst => simp [ofWords] at hf
  | snake => exact congrArg (['_'].intercalate ·) h
  | screamingSnake =>
    show screamingChars cs = screamingChars ds
    rw [screamingChars_eq, screamingChars_eq, h]
  | pascal => exact hpascal
  | camel => exact congrArg lowerFirstChars hpascal

/-- Separating conventions keep the words up to case. -/
theorem plainWords_applyChars (hn : n ∈ separating) (cs : List Char) :
    plainWords (n.applyChars cs) = plainWords cs := by
  cases n with
  | snake => exact plainWords_snakeChars cs
  | screamingSnake => exact plainWords_screamingChars cs
  | upperFirst | lowerFirst | pascal | camel => simp [separating] at hn

/-- A name can be put into a form that keeps its words apart before any convention is applied to its
words. -/
theorem apply_normalized (hf : f ∈ ofWords) (hn : n ∈ separating) (s : String) :
    f.apply (n.apply s) = f.apply s := by
  rw [apply, apply, apply, String.toList_ofList,
    applyChars_congr hf (plainWords_applyChars hn s.toList)]

/-- A name with an acronym, a number and a letter that is not plain. -/
theorem apply_normalized_server :
    camel ∈ ofWords ∧ screamingSnake ∈ separating ∧
    screamingSnake.apply "HTTPServer2 goÉs" = "HTTP_SERVER_2_GO_S" ∧
    camel.apply "HTTP_SERVER_2_GO_S" = "httpServer2GoS" ∧
    camel.apply "HTTPServer2 goÉs" = "httpServer2GoS" := by
  have hnormal : screamingSnake.apply "HTTPServer2 goÉs" = "HTTP_SERVER_2_GO_S" := by
    decide +kernel
  have hcamel : camel.apply "HTTP_SERVER_2_GO_S" = "httpServer2GoS" := by decide +kernel
  refine ⟨by decide, by decide, hnormal, hcamel, ?_⟩
  rw [← hcamel, ← hnormal]
  exact (apply_normalized (by decide) (by decide) "HTTPServer2 goÉs").symm

end Convention

end MobileSchema
