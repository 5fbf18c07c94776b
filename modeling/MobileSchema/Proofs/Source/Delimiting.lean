import MobileSchema.Proofs.Source.Lines

/-!
# Texts that can be taken apart

A text that is put together from parts determines these parts if each of them shows where it ends.
There are two ways to show it: what follows begins as the part cannot go on (`append_inj_of_stop`),
or the part is written so that no other can be read in its place, whatever follows (`Readable`).
What is readable item by item is readable as a list (`Readable.flatMap_inj`).

Lines without line breaks are readable, so a text determines them (`textOfLines_inj`).  A name of
letters, digits and underscores ends where another character follows (`name_append_inj`).
-/

namespace MobileSchema

variable {α β : Type}

/-! ### Parts that what follows puts an end to -/

/-- Where no item stops up to some place, and the items from there on begin with one that stops, two
lists have this place in common. -/
theorem append_inj_of_stop (stops : α → Prop) {xs ys rest rest' : List α}
    (hxs : ∀ x ∈ xs, ¬ stops x) (hys : ∀ y ∈ ys, ¬ stops y)
    (hrest : ∀ x ∈ rest.head?, stops x) (hrest' : ∀ x ∈ rest'.head?, stops x)
    (h : xs ++ rest = ys ++ rest') : xs = ys ∧ rest = rest' := by
  induction xs generalizing ys with
  | nil =>
    cases ys with
    | nil => exact ⟨rfl, h⟩
    | cons y ys =>
      rw [List.nil_append] at h
      exact absurd (hrest y (by rw [h]; rfl)) (hys y (by simp))
  | cons x xs ih =>
    cases ys with
    | nil =>
      rw [List.nil_append] at h
      exact absurd (hrest' x (by rw [← h]; rfl)) (hxs x (by simp))
    | cons y ys =>
      obtain ⟨rfl, htail⟩ := List.cons.inj h
      obtain ⟨rfl, hrests⟩ := ih (fun z hz => hxs z (by simp [hz])) (fun z hz => hys z (by simp [hz]))
        htail
      exact ⟨rfl, hrests⟩

/-! ### Parts that show their own end -/

/-- Whether items of some sort can be told from what is written for them, whatever follows it. -/
def Readable (sort : α → Prop) (write : α → List β) : Prop :=
  ∀ x y, sort x → sort y → ∀ rest rest', write x ++ rest = write y ++ rest' → x = y ∧ rest = rest'

/-- A list is told from what is written for its items one after another. -/
theorem Readable.flatMap_inj {sort : α → Prop} {write : α → List β} (h : Readable sort write)
    (hwrite : ∀ x, write x ≠ []) {xs ys : List α} (hxs : ∀ x ∈ xs, sort x)
    (hys : ∀ y ∈ ys, sort y) (heq : xs.flatMap write = ys.flatMap write) : xs = ys := by
  induction xs generalizing ys with
  | nil =>
    cases ys with
    | nil => rfl
    | cons y ys =>
      rw [List.flatMap_nil, List.flatMap_cons] at heq
      exact absurd (List.append_eq_nil_iff.1 heq.symm).1 (hwrite y)
  | cons x xs ih =>
    cases ys with
    | nil =>
      rw [List.flatMap_nil, List.flatMap_cons] at heq
      exact absurd (List.append_eq_nil_iff.1 heq).1 (hwrite x)
    | cons y ys =>
      rw [List.flatMap_cons, List.flatMap_cons] at heq
      obtain ⟨rfl, htail⟩ := h x y (hxs x (by simp)) (hys y (by simp)) _ _ heq
      rw [ih (fun z hz => hxs z (by simp [hz])) (fun z hz => hys z (by simp [hz])) htail]

/-- What is made of single items, each of which can be told from it, determines a list. -/
theorem map_inj_of_sort {sort : α → Prop} {f : α → β}
    (hf : ∀ x y, sort x → sort y → f x = f y → x = y) {xs ys : List α} (hxs : ∀ x ∈ xs, sort x)
    (hys : ∀ y ∈ ys, sort y) (heq : xs.map f = ys.map f) : xs = ys := by
  have hread : Readable sort fun x => [f x] := by
    intro x y hx hy rest rest' h
    obtain ⟨h, hrest⟩ := List.cons.inj h
    exact ⟨hf x y hx hy h, hrest⟩
  refine hread.flatMap_inj (by simp) hxs hys ?_
  rw [← List.map_eq_flatMap, ← List.map_eq_flatMap]
  exact heq

/-- Of literals none of which begins another, a text begins with one at most. -/
theorem literal_append_inj {literals : List String}
    (hliterals : ∀ a ∈ literals, ∀ b ∈ literals, a.toList <+: b.toList → a = b)
    {a b rest rest' : String} (ha : a ∈ literals) (hb : b ∈ literals)
    (h : a ++ rest = b ++ rest') : a = b ∧ rest = rest' := by
  have hlists : a.toList ++ rest.toList = b.toList ++ rest'.toList := by
    rw [← String.toList_append, ← String.toList_append, h]
  -- of two beginnings of one text, one is a beginning of the other
  have heq : a = b := by
    rcases List.prefix_or_prefix_of_prefix (List.prefix_append a.toList rest.toList)
      (hlists ▸ List.prefix_append b.toList rest'.toList) with hprefix | hprefix
    · exact hliterals a ha b hb hprefix
    · exact (hliterals b hb a ha hprefix).symm
  subst heq
  exact ⟨rfl, (String.append_right_inj _).1 h⟩

/-! ### Lines -/

/-- Whether a text is one line at most. -/
def OneLine (text : String) : Prop := '\n' ∉ text.toList

@[simp] theorem oneLine_append {text more : String} :
    OneLine (text ++ more) ↔ OneLine text ∧ OneLine more := by
  simp [OneLine]

instance (text : String) : Decidable (OneLine text) :=
  inferInstanceAs (Decidable ('\n' ∉ text.toList))

theorem toList_textOfLines (lines : List String) :
    (textOfLines lines).toList = lines.flatMap fun line => line.toList ++ ['\n'] := by
  induction lines with
  | nil => rfl
  | cons line lines ih => simp [ih]

/-- Lines without line breaks can be read back one by one. -/
theorem readable_line : Readable OneLine fun line : String => line.toList ++ ['\n'] := by
  intro line line' hline hline' rest rest' h
  simp only [List.append_assoc, List.singleton_append] at h
  obtain ⟨hlines, hrest⟩ := append_inj_of_stop (· = '\n')
    (fun c hc heq => hline (heq ▸ hc)) (fun c hc heq => hline' (heq ▸ hc)) (by simp) (by simp) h
  exact ⟨String.toList_inj.1 hlines, (List.cons.inj hrest).2⟩

/-- A text determines its lines. -/
theorem textOfLines_inj {lines lines' : List String} (hlines : ∀ line ∈ lines, OneLine line)
    (hlines' : ∀ line ∈ lines', OneLine line) (h : textOfLines lines = textOfLines lines') :
    lines = lines' := by
  refine readable_line.flatMap_inj (by simp) hlines hlines' ?_
  rw [← toList_textOfLines, ← toList_textOfLines, h]

/-! ### Names -/

/-- Whether a character can stand in a plain name. -/
def isNameChar (c : Char) : Bool := c.isAlphanum || c = '_'

/-- Whether a name is not empty and of letters, digits and underscores only. -/
def isPlainName (name : String) : Bool := name ≠ "" && name.toList.all isNameChar

/-- Whether characters do not go on as a plain name does. -/
def EndsName (rest : List Char) : Prop := ∀ c ∈ rest.head?, ¬ isNameChar c

variable {name name' : String}

theorem isNameChar_of_mem (h : isPlainName name) : ∀ c ∈ name.toList, isNameChar c :=
  List.all_eq_true.1 (Bool.and_eq_true_iff.1 h).2

theorem oneLine_of_isPlainName (h : isPlainName name) : OneLine name := by
  intro hmem
  exact absurd (isNameChar_of_mem h _ hmem) (by decide)

/-- A name ends where the characters do not go on as names do. -/
theorem name_toList_append_inj (hname : isPlainName name) (hname' : isPlainName name')
    {rest rest' : List Char} (hrest : EndsName rest) (hrest' : EndsName rest')
    (h : name.toList ++ rest = name'.toList ++ rest') : name = name' ∧ rest = rest' := by
  obtain ⟨hnames, hrests⟩ := append_inj_of_stop (fun c => ¬ isNameChar c)
    (fun c hc hstop => hstop (isNameChar_of_mem hname c hc))
    (fun c hc hstop => hstop (isNameChar_of_mem hname' c hc)) hrest hrest' h
  exact ⟨String.toList_inj.1 hnames, hrests⟩

/-- A plain name ends where something comes that no plain name has in it. -/
theorem name_append_inj (hname : isPlainName name) (hname' : isPlainName name')
    {rest rest' : String} (hrest : EndsName rest.toList) (hrest' : EndsName rest'.toList)
    (h : name ++ rest = name' ++ rest') : name = name' ∧ rest = rest' := by
  rw [← String.toList_inj, String.toList_append, String.toList_append] at h
  obtain ⟨hnames, hrests⟩ := name_toList_append_inj hname hname' hrest hrest' h
  exact ⟨hnames, String.toList_inj.1 hrests⟩

/-- Names in quotes with commas between them, as one piece for each name. -/
theorem toList_intercalate_quoted {names : List String} (hne : names ≠ []) :
    (", ".intercalate (names.map fun name => "\"" ++ name ++ "\"") ++ ", ").toList =
      names.flatMap fun name => '"' :: (name.toList ++ ['"', ',', ' ']) := by
  induction names with
  | nil => exact absurd rfl hne
  | cons name names ih =>
    cases names with
    | nil => simp
    | cons other names =>
      rw [List.flatMap_cons, ← ih (by simp), List.map_cons, List.map_cons,
        String.intercalate_cons_cons]
      simp

/-- Names in quotation marks, with commas between them, determine the names. -/
theorem intercalate_quoted_inj {names names' : List String} (hne : names ≠ []) (hne' : names' ≠ [])
    (hnames : ∀ name ∈ names, isPlainName name) (hnames' : ∀ name ∈ names', isPlainName name)
    (h : ", ".intercalate (names.map fun name => "\"" ++ name ++ "\"") =
      ", ".intercalate (names'.map fun name => "\"" ++ name ++ "\"")) : names = names' := by
  have hread : Readable (isPlainName ·) fun name : String =>
      '"' :: (name.toList ++ ['"', ',', ' ']) := by
    intro name name' hname hname' rest rest' heq
    have hends : ∀ more, EndsName ('"' :: ',' :: ' ' :: more) := by
      intro more
      simp [EndsName, isNameChar]
    simp only [List.cons_append, List.append_assoc, List.nil_append, List.cons.injEq,
      true_and] at heq
    obtain ⟨rfl, hrests⟩ := name_toList_append_inj hname hname' (hends _) (hends _) heq
    exact ⟨rfl, by simpa using hrests⟩
  refine hread.flatMap_inj (by simp) hnames hnames' ?_
  rw [← toList_intercalate_quoted hne, ← toList_intercalate_quoted hne', h]

theorem oneLine_intercalate_quoted {names : List String} (h : ∀ name ∈ names, OneLine name) :
    OneLine (", ".intercalate (names.map fun name => "\"" ++ name ++ "\"")) := by
  by_cases hne : names = []
  · subst hne
    decide
  · have hall : OneLine (", ".intercalate (names.map fun name => "\"" ++ name ++ "\"") ++ ", ") := by
      rw [OneLine, toList_intercalate_quoted hne, List.mem_flatMap]
      rintro ⟨name, hname, hmem⟩
      simp only [List.mem_cons, List.mem_append] at hmem
      rcases hmem with hquote | hmem | hclose
      · cases hquote
      · exact h name hname hmem
      · revert hclose
        decide
    exact (oneLine_append.1 hall).1

end MobileSchema
