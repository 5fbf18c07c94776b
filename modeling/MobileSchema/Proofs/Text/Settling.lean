import Mathlib.Data.List.Chain
import Mathlib.Data.List.Flatten
import MobileSchema.Proofs.Text.Joining

/-!
# Joined names that settle

A name in `pascal_case` or `camel_case` is not always kept when it is put into the same form again.
Single capitals that stand side by side are read as one word the next time, and of this word only
the first letter stays a capital: `X Y` becomes `XY`, and `XY` becomes `Xy`.  Nothing else is
changed by joining once more (`IsRunOf.form_flatten_eq_iff`), so that a joined name is kept exactly
if no two of its parts that follow each other are single capitals (`AreJoined.joinedChars_eq_iff`).

Runs of single capitals are maximal, so where two runs meet one of them at most is a single capital,
and no new run comes up (`AreJoined.neverTwice`).  Hence from the second time on nothing is changed
(`joinedChars_joinedChars_joinedChars`).

The two conventions differ in the form of the first word only.  What both forms have in common is
`IsForm`, and all is proved from this.
-/

namespace MobileSchema

variable {form opening : List Char → List Char} {cs w : List Char}
  {vs ws group next : List (List Char)} {gs : List (List (List Char))}

/-! ### Parts are words -/

theorem isWord_of_isDigits (hne : w ≠ []) (h : isDigits w = true) : IsWord w := by
  rw [isDigits_iff] at h
  refine ⟨hne, fun c hc => standsInWord_iff.2 (.inr (.inr (h c hc))), ?_⟩
  intro c hc d hd
  rw [h c hc, h d hd]

theorem isWord_of_letters (hne : w ≠ []) (h : ∀ c ∈ w, c.isUpper = true ∨ c.isLower = true) :
    IsWord w := by
  refine ⟨hne, fun c hc => standsInWord_iff.2 ((h c hc).imp id .inl), ?_⟩
  intro c hc d hd
  rw [isDigit_eq_false_of_letter (h c hc), isDigit_eq_false_of_letter (h d hd)]

/-- A part of a joined name is a word. -/
theorem IsPart.isWord (h : IsPart w) : IsWord w := by
  cases h with
  | number hne h => exact isWord_of_isDigits hne h
  | letters hc hw =>
    exact isWord_of_letters (by simp) (List.forall_mem_cons.2 ⟨hc, fun d hd => .inr (hw d hd)⟩)

/-! ### Forms of words -/

/-- What the forms in which a joined name has its words have in common. -/
structure IsForm (form : List Char → List Char) : Prop where
  isPart : ∀ {w}, IsWord w → IsPart (form w)
  length_eq : ∀ {w}, IsWord w → (form w).length = w.length
  again : ∀ {w}, IsWord w → form (form w) = form w
  number : ∀ {w}, IsWord w → isDigits w = true → form w = w
  /-- an acronym does not keep its capitals -/
  acronym : ∀ {c d w}, IsWord (c :: d :: w) → d.isUpper = true → form (c :: d :: w) ≠ c :: d :: w

theorem toLower_ne_self {c : Char} (h : c.isUpper = true) : c.toLower ≠ c := by
  intro hsame
  have hlower := isLower_toLower h
  rw [hsame, isLower_eq_false_of_isUpper h] at hlower
  cases hlower

/-- Capitalizing is such a form. -/
theorem isForm_capitalized : IsForm capitalized where
  isPart := fun h => h.isPart_capitalized
  length_eq := by
    intro w h
    obtain ⟨c, cs, rfl⟩ := List.exists_cons_of_ne_nil h.ne_nil
    rw [h.capitalized_eq]
    simp
  again := by
    intro w h
    have hword := h.isPart_capitalized.isWord
    rw [← hword.capitalized_lowerText, h.lowerText_capitalized, h.capitalized_lowerText]
  number := fun h hnumber => h.capitalized_of_isDigits hnumber
  acronym := by
    intro c d w h hd hsame
    rw [h.capitalized_eq] at hsame
    exact toLower_ne_self hd (List.cons.inj (List.cons.inj hsame).2).1

theorem isForm_lowerText : IsForm lowerText where
  isPart := fun h => h.isPart_lowerText
  length_eq := by
    intro w h
    rw [h.lowerText_eq, List.length_map]
  again := fun h => h.lowerText_lowerText
  number := fun h hnumber => h.lowerText_of_isDigits hnumber
  acronym := by
    intro c d w h hd hsame
    rw [h.lowerText_eq] at hsame
    exact toLower_ne_self hd (List.cons.inj (List.cons.inj hsame).2).1

/-! ### Runs in another form -/

/-- Whether some parts are a run of which a form keeps the first part. -/
structure IsRunOf (form : List Char → List Char) (group : List (List Char)) : Prop where
  ne_nil : group ≠ []
  isPart : ∀ v ∈ group, IsPart v
  sticks : group.IsChain fun v w => sticks v w = true
  first : ∀ v ∈ group.head?, form v = v

theorem neverTwice_singleton (test : List Char → Bool) (v : List Char) : NeverTwice test [v] :=
  .singleton v

theorem neverTwice_of_forall {test : List Char → Bool} (h : ∀ v ∈ vs, test v = false) :
    NeverTwice test vs := by
  rw [NeverTwice, List.isChain_iff_getElem]
  intro i hi hboth
  rw [h _ (List.getElem_mem _)] at hboth
  cases hboth.1

theorem isDigits_flatten (h : ∀ v ∈ group, isDigits v = true) : isDigits group.flatten = true := by
  rw [isDigits_iff]
  intro c hc
  obtain ⟨v, hv, hc⟩ := List.mem_flatten.1 hc
  exact isDigits_iff.1 (h v hv) c hc

theorem isUpper_of_mem_flatten (h : ∀ v ∈ group, isInitial v = true) :
    ∀ c ∈ group.flatten, c.isUpper = true := by
  intro c hc
  obtain ⟨v, hv, hc⟩ := List.mem_flatten.1 hc
  obtain ⟨d, rfl, hd⟩ := isInitial_iff.1 (h v hv)
  rw [List.mem_singleton.1 hc]
  exact hd

namespace IsRunOf

/-- A run of parts is read as one word. -/
theorem isWord (h : IsRunOf form group) : IsWord group.flatten := by
  have hflat : group.flatten ≠ [] := by
    obtain ⟨v, group, rfl⟩ := List.exists_cons_of_ne_nil h.ne_nil
    simp [(h.isPart v (by simp)).ne_nil]
  rcases run_cases h.ne_nil h.isPart h.sticks with hall | hall | ⟨v, rfl, -, -⟩
  · exact isWord_of_isDigits hflat (isDigits_flatten hall)
  · exact isWord_of_letters hflat fun c hc => .inl (isUpper_of_mem_flatten hall c hc)
  · rw [List.flatten_singleton]
    exact (h.isPart v (by simp)).isWord

/-- A run is kept by a form that keeps its first part, unless it is an acronym. -/
theorem form_flatten_eq_iff (h : IsRunOf form group) (hform : IsForm form) :
    form group.flatten = group.flatten ↔ NeverTwice isInitial group := by
  have hsingle : ∀ v, group = [v] →
      (form group.flatten = group.flatten ↔ NeverTwice isInitial group) := by
    rintro v rfl
    rw [List.flatten_singleton]
    exact iff_of_true (h.first v rfl) (neverTwice_singleton _ v)
  rcases run_cases h.ne_nil h.isPart h.sticks with hall | hall | ⟨v, hv, -, -⟩
  · refine iff_of_true (hform.number h.isWord (isDigits_flatten hall)) ?_
    refine neverTwice_of_forall fun v hv => ?_
    rw [← Bool.not_eq_true]
    intro hcapital
    have hnumber := hall v hv
    rw [isDigits_eq_false_of_isInitial hcapital] at hnumber
    cases hnumber
  · match group, h.ne_nil with
    | [v], _ => exact hsingle v rfl
    | v :: w :: group, _ =>
      -- two capitals are read as one word, which does not keep the second
      obtain ⟨c, rfl, hc⟩ := isInitial_iff.1 (hall v (by simp))
      obtain ⟨d, rfl, hd⟩ := isInitial_iff.1 (hall w (by simp))
      have hword : IsWord (c :: d :: group.flatten) := h.isWord
      refine iff_of_false (hform.acronym hword hd) ?_
      rw [NeverTwice, List.isChain_cons_cons]
      exact fun hnot => hnot.1 ⟨hc, hd⟩
  · exact hsingle v hv

/-- A run that comes to a single capital was one. -/
theorem eq_singleton_of_isInitial (h : IsRunOf form group) (hform : IsForm form)
    (hcapital : isInitial (form group.flatten) = true) : ∃ v, group = [v] ∧ isInitial v = true := by
  obtain ⟨c, hc, -⟩ := isInitial_iff.1 hcapital
  have hlength := hform.length_eq h.isWord
  rw [hc, List.length_singleton] at hlength
  match group, h.ne_nil with
  | [v], _ =>
    rw [List.flatten_singleton, h.first v rfl] at hcapital
    exact ⟨v, rfl, hcapital⟩
  | v :: w :: group, _ =>
    have hv : 0 < v.length := List.length_pos_iff.2 (h.isPart v (by simp)).ne_nil
    have hw : 0 < w.length := List.length_pos_iff.2 (h.isPart w (by simp)).ne_nil
    rw [List.flatten_cons, List.flatten_cons, List.length_append, List.length_append] at hlength
    omega

/-- Where two runs meet they do not both come to single capitals. -/
theorem not_isInitial_both {form' : List Char → List Char} (h : IsRunOf form group)
    (hform : IsForm form) (h' : IsRunOf form' next) (hform' : IsForm form')
    (hstop : ∃ hg hn, MobileSchema.sticks (group.getLast hg) (next.head hn) = false) :
    ¬ (isInitial (form group.flatten) = true ∧ isInitial (form' next.flatten) = true) := by
  rintro ⟨hcapital, hcapital'⟩
  obtain ⟨v, rfl, hv⟩ := h.eq_singleton_of_isInitial hform hcapital
  obtain ⟨w, rfl, hw⟩ := h'.eq_singleton_of_isInitial hform' hcapital'
  obtain ⟨_, _, hstop⟩ := hstop
  simp [MobileSchema.sticks, hv, hw] at hstop

end IsRunOf

/-! ### Joined names -/

/-- The parts of a joined name: its first word in a form of its own, all others capitalized. -/
def joinedParts (opening : List Char → List Char) : List (List Char) → List (List Char)
  | [] => []
  | w :: ws => opening w :: ws.map capitalized

/-- The words of a name, joined. -/
def joinedChars (opening : List Char → List Char) (cs : List Char) : List Char :=
  (joinedParts opening (words cs)).flatten

/-- With a capitalized opening all words are capitalized. -/
theorem joinedParts_capitalized (ws : List (List Char)) :
    joinedParts capitalized ws = ws.map capitalized := by
  cases ws <;> rfl

theorem joinedChars_capitalized (cs : List Char) : joinedChars capitalized cs = pascalChars cs := by
  rw [joinedChars, joinedParts_capitalized, pascalChars, List.flatMap_def]

/-- With an opening in small letters the joined name is in camel case. -/
theorem joinedChars_lowerText (cs : List Char) : joinedChars lowerText cs = camelChars cs := by
  have hwords : ∀ w ∈ words cs, IsWord w := fun w hw => isWord_of_mem_words hw
  rw [joinedChars, camelChars, pascalChars]
  generalize words cs = ws at hwords
  cases ws with
  | nil => rfl
  | cons w ws =>
    rw [List.flatMap_cons, (hwords w (by simp)).lowerFirstChars_append, List.flatMap_def]
    rfl

/-- Joining changes no length, so that joined words tell which words have been changed. -/
theorem flatten_joinedParts_eq_iff (h : IsForm opening) (hws : ∀ w ∈ ws, IsWord w) :
    (joinedParts opening ws).flatten = ws.flatten ↔ joinedParts opening ws = ws := by
  have hlength : (joinedParts opening ws).map List.length = ws.map List.length := by
    cases ws with
    | nil => rfl
    | cons w ws =>
      obtain ⟨hw, hws⟩ := List.forall_mem_cons.1 hws
      rw [joinedParts, List.map_cons, List.map_cons, h.length_eq hw, List.map_map]
      exact congrArg _ (List.map_congr_left fun v hv => isForm_capitalized.length_eq (hws v hv))
  rw [List.eq_iff_flatten_eq (L := joinedParts opening ws)]
  exact ⟨fun hsame => ⟨hsame, hlength⟩, And.left⟩

/-! ### The runs of a joined name -/

/-- Whether some parts are the runs of a joined name. -/
def AreRuns (opening : List Char → List Char) : List (List (List Char)) → Prop
  | [] => True
  | first :: gs => IsRunOf opening first ∧ ∀ group ∈ gs, IsRunOf capitalized group

namespace AreRuns

/-- Joining keeps runs that are no acronyms, and no others. -/
theorem joinedParts_eq_iff (h : AreRuns opening gs) (hform : IsForm opening) :
    joinedParts opening (gs.map List.flatten) = gs.map List.flatten ↔
      ∀ group ∈ gs, NeverTwice isInitial group := by
  cases gs with
  | nil => simp [joinedParts]
  | cons first gs =>
    obtain ⟨hfirst, hrest⟩ := h
    rw [List.map_cons, joinedParts, List.cons.injEq, hfirst.form_flatten_eq_iff hform,
      List.map_map, List.map_inj_left, List.forall_mem_cons]
    refine and_congr_right' (forall₂_congr fun group hgroup => ?_)
    exact (hrest group hgroup).form_flatten_eq_iff isForm_capitalized

/-- Joining brings no single capitals together. -/
theorem neverTwice_joinedParts (h : AreRuns opening gs) (hform : IsForm opening)
    (hstop : gs.IsChain fun group next =>
      ∃ hg hn, sticks (group.getLast hg) (next.head hn) = false) :
    NeverTwice isInitial (joinedParts opening (gs.map List.flatten)) := by
  match gs with
  | [] => exact .nil
  | [first] => exact neverTwice_singleton _ _
  | first :: second :: gs =>
    obtain ⟨hfirst, hrest⟩ := h
    obtain ⟨hmeet, hstop⟩ := List.isChain_cons_cons.1 hstop
    have hcapitalized : NeverTwice isInitial
        (((second :: gs).map List.flatten).map capitalized) := by
      rw [NeverTwice, List.map_map, List.isChain_map]
      refine hstop.imp_of_mem_imp fun group next hgroup hnext hmeet => ?_
      exact (hrest group hgroup).not_isInitial_both isForm_capitalized (hrest next hnext)
        isForm_capitalized hmeet
    refine .cons_cons ?_ hcapitalized
    exact hfirst.not_isInitial_both hform (hrest second (by simp)) isForm_capitalized hmeet

end AreRuns

/-- No two single capitals follow each other exactly if none do in a run. -/
theorem neverTwice_iff_runs (vs : List (List Char)) :
    NeverTwice isInitial vs ↔ ∀ group ∈ vs.splitBy sticks, NeverTwice isInitial group := by
  obtain ⟨hflat, hne, -, hstop⟩ := List.splitBy_eq_iff.1 (rfl : vs.splitBy sticks = _)
  conv_lhs => rw [hflat]
  rw [NeverTwice, List.isChain_flatten hne]
  refine and_iff_left (hstop.imp ?_)
  rintro group next ⟨hg, hn, hstop⟩ v hv w hw ⟨hcapital, hcapital'⟩
  rw [List.getLast_of_mem_getLast? hv, List.head_of_mem_head? hw] at hstop
  simp [sticks, hcapital, hcapital'] at hstop

/-- Whether some parts are those of a joined name. -/
structure AreJoined (opening : List Char → List Char) (vs : List (List Char)) : Prop where
  isPart : ∀ v ∈ vs, IsPart v
  first : ∀ v ∈ vs.head?, opening v = v
  rest : ∀ v ∈ vs.tail, capitalized v = v

/-- The parts of a joined name are as a joined name has them. -/
theorem areJoined_joinedParts (h : IsForm opening) (hws : ∀ w ∈ ws, IsWord w) :
    AreJoined opening (joinedParts opening ws) := by
  cases ws with
  | nil => exact ⟨by simp [joinedParts], by simp [joinedParts], by simp [joinedParts]⟩
  | cons w ws =>
    obtain ⟨hw, hws⟩ := List.forall_mem_cons.1 hws
    refine ⟨List.forall_mem_cons.2 ⟨h.isPart hw, ?_⟩, ?_, ?_⟩
    · exact List.forall_mem_map.2 fun v hv => (hws v hv).isPart_capitalized
    · rintro _ ⟨⟩
      exact h.again hw
    · exact List.forall_mem_map.2 fun v hv => isForm_capitalized.again (hws v hv)

namespace AreJoined

/-- The words of a joined name are its runs of parts that stick. -/
theorem words_flatten_eq (h : AreJoined opening vs) :
    words vs.flatten = (vs.splitBy sticks).map List.flatten := by
  refine words_flatten h.isPart fun v hv => ?_
  rw [← h.rest v hv]
  exact (h.isPart v (List.mem_of_mem_tail hv)).isWord.startsLower_capitalized

/-- The parts of a joined name fall apart into runs. -/
theorem areRuns (h : AreJoined opening vs) : AreRuns opening (vs.splitBy sticks) := by
  obtain ⟨hflat, hne, hchain, -⟩ := List.splitBy_eq_iff.1 (rfl : vs.splitBy sticks = _)
  obtain ⟨hpart, hfirst, hrest⟩ := h
  rw [hflat] at hpart hfirst hrest
  generalize vs.splitBy sticks = gs at *
  have hrun : ∀ {form group}, group ∈ gs → (∀ v ∈ group.head?, form v = v) →
      IsRunOf form group := by
    intro form group hgroup hhead
    refine ⟨fun hnil => hne (hnil ▸ hgroup), ?_, hchain group hgroup, hhead⟩
    exact fun v hv => hpart v (List.mem_flatten_of_mem hgroup hv)
  rcases gs with - | ⟨- | ⟨v, first⟩, gs⟩
  · trivial
  · simp at hne
  · refine ⟨hrun (by simp) hfirst, fun group hgroup => ?_⟩
    refine hrun (List.mem_cons_of_mem _ hgroup) fun u hu => hrest u ?_
    exact List.mem_append_right first (List.mem_flatten_of_mem hgroup (List.mem_of_mem_head? hu))

/-- A joined name is kept exactly if no two of its parts that follow each other are single
capitals. -/
theorem joinedChars_eq_iff (h : AreJoined opening vs) (hform : IsForm opening) :
    joinedChars opening vs.flatten = vs.flatten ↔ NeverTwice isInitial vs := by
  have hwords := h.words_flatten_eq
  have hflat : (words vs.flatten).flatten = vs.flatten := by
    rw [hwords, ← List.flatten_flatten, List.flatten_splitBy]
  conv_lhs => rhs; rw [← hflat]
  rw [joinedChars, flatten_joinedParts_eq_iff hform fun w hw => isWord_of_mem_words hw, hwords,
    h.areRuns.joinedParts_eq_iff hform, neverTwice_iff_runs]

/-- After the first step no two single capitals follow each other. -/
theorem neverTwice (h : AreJoined opening vs) (hform : IsForm opening) :
    NeverTwice isInitial (joinedParts opening (words vs.flatten)) := by
  rw [h.words_flatten_eq]
  exact h.areRuns.neverTwice_joinedParts hform (List.isChain_getLast_head_splitBy _ _)

end AreJoined

/-! ### Names that are joined again -/

section

variable (h : IsForm opening) (cs : List Char)
include h

theorem areJoined_words : AreJoined opening (joinedParts opening (words cs)) :=
  areJoined_joinedParts h fun _ hw => isWord_of_mem_words hw

/-- A joined name is settled just if no two single capitals follow each other in it. -/
theorem joinedChars_joinedChars_iff :
    joinedChars opening (joinedChars opening cs) = joinedChars opening cs ↔
      NeverTwice isInitial (joinedParts opening (words cs)) :=
  (areJoined_words h cs).joinedChars_eq_iff h

/-- A name that is joined for the third time is kept. -/
theorem joinedChars_joinedChars_joinedChars :
    joinedChars opening (joinedChars opening (joinedChars opening cs)) =
      joinedChars opening (joinedChars opening cs) := by
  rw [joinedChars_joinedChars_iff h (joinedChars opening cs)]
  exact (areJoined_words h cs).neverTwice h

end

/-- Two single capitals follow each other just if two single letters do. -/
theorem neverTwice_map_capitalized (hws : ∀ w ∈ ws, IsWord w) :
    NeverTwice isInitial (ws.map capitalized) ↔ NeverTwice isSingle ws := by
  rw [NeverTwice, NeverTwice, List.isChain_map, List.isChain_iff_getElem, List.isChain_iff_getElem]
  refine forall₂_congr fun i hi => ?_
  rw [(hws _ (List.getElem_mem _)).isInitial_capitalized,
    (hws _ (List.getElem_mem _)).isInitial_capitalized]

/-- A name in Pascal case is settled just if no two words that follow each other are single
letters. -/
theorem pascalChars_pascalChars_iff (cs : List Char) :
    pascalChars (pascalChars cs) = pascalChars cs ↔ NeverTwice isSingle (words cs) := by
  rw [← joinedChars_capitalized, ← joinedChars_capitalized,
    joinedChars_joinedChars_iff isForm_capitalized, joinedParts_capitalized,
    neverTwice_map_capitalized fun _ hw => isWord_of_mem_words hw]

/-- The first word of a name in camel case is no single capital. -/
theorem camelChars_camelChars_iff (cs : List Char) :
    camelChars (camelChars cs) = camelChars cs ↔ NeverTwice isSingle (words cs).tail := by
  have hwords : ∀ w ∈ words cs, IsWord w := fun w hw => isWord_of_mem_words hw
  rw [← joinedChars_lowerText, ← joinedChars_lowerText,
    joinedChars_joinedChars_iff isForm_lowerText]
  generalize words cs = ws at hwords
  cases ws with
  | nil => exact iff_of_true .nil .nil
  | cons w ws =>
    obtain ⟨hw, hws⟩ := List.forall_mem_cons.1 hwords
    rw [joinedParts, List.tail_cons, ← neverTwice_map_capitalized hws]
    simp [NeverTwice, List.isChain_cons, hw.isInitial_lowerText]

namespace Convention

/-- A name in `pascal_case` or `camel_case` is kept from the second time on.  It is kept the first
time already exactly if no two words that follow each other are single letters, in `camel_case`
behind the first word. -/
theorem joined_settles (s : String) :
    pascal.apply (pascal.apply (pascal.apply s)) = pascal.apply (pascal.apply s) ∧
    camel.apply (camel.apply (camel.apply s)) = camel.apply (camel.apply s) ∧
    (pascal.apply (pascal.apply s) = pascal.apply s ↔ NeverTwice isSingle (words s.toList)) ∧
    (camel.apply (camel.apply s) = camel.apply s ↔ NeverTwice isSingle (words s.toList).tail) := by
  simp only [apply, String.toList_ofList, String.ofList_inj, applyChars]
  refine ⟨?_, ?_, pascalChars_pascalChars_iff _, camelChars_camelChars_iff _⟩
  · simp only [← joinedChars_capitalized]
    exact joinedChars_joinedChars_joinedChars isForm_capitalized _
  · simp only [← joinedChars_lowerText]
    exact joinedChars_joinedChars_joinedChars isForm_lowerText _

/-- Letters that follow each other are one word the next time. -/
example : pascal.apply "x y" = "XY" ∧ pascal.apply "XY" = "Xy" ∧ camel.apply "x y" = "xY" ∧
    camel.apply "xY" = "xY" := by decide +kernel

end Convention

end MobileSchema
