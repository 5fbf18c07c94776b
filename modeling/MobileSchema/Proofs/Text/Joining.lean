import Mathlib.Data.List.SplitBy
import MobileSchema.Proofs.Text.Normalizing

/-!
# Words written without separators

`pascal_case` and `camel_case` write the words of a name one after another, so that nothing but
capitals and changes between letters and digits tell where a word starts.  Two parts that stand side
by side are then read as one word exactly if both are numbers or both are single capitals
(`sticks`).  So the words of joined parts are the runs of parts that stick together
(`words_flatten`), and the parts themselves are read again exactly if no two neighbours stick
(`plainWords_flatten_eq_iff`).

Hence a name can be brought back from these two forms unless two of its words stick once they are
capitalized (`Convention.snake_joined_iff`).  The first word of `camel_case` has no capital, which
is why it sticks to a number only.
-/

namespace MobileSchema

variable {c : Char} {cs rest v w : List Char} {vs group : List (List Char)}

/-! ### Reading one word -/

/-- A word that is read at the start of a text is the first of its words. -/
theorem words_append (hne : w ≠ []) (h : leadingWord (w ++ rest) = w) :
    words (w ++ rest) = w :: words rest := by
  obtain ⟨c, w, rfl⟩ := List.exists_cons_of_ne_nil hne
  have hwords : words (c :: (w ++ rest)) = (c :: w) :: words ((w ++ rest).drop w.length) :=
    words_of_leadingWord h
  rw [List.drop_left] at hwords
  exact hwords

theorem takeWhile_append_of_stop {p : Char → Bool} (hw : ∀ c ∈ w, p c = true)
    (hrest : ∀ c ∈ rest.head?, p c = false) : (w ++ rest).takeWhile p = w := by
  rw [List.takeWhile_append_of_pos hw]
  cases rest with
  | nil => simp
  | cons c rest => simp [hrest c rfl]

/-- A number in front is a word up to the first character that is no digit. -/
theorem leadingWord_append_of_isDigit (hw : ∀ c ∈ w, isDigit c = true)
    (hrest : ∀ c ∈ rest.head?, isDigit c = false) (hne : w ≠ []) :
    leadingWord (w ++ rest) = w := by
  obtain ⟨c, w, rfl⟩ := List.exists_cons_of_ne_nil hne
  obtain ⟨hc, hw⟩ := List.forall_mem_cons.1 hw
  rw [List.cons_append, leadingWord_of_isDigit hc, takeWhile_append_of_stop hw hrest]

theorem acronym_append (hw : ∀ c ∈ w, c.isUpper = true) (hrest : startsLower rest = false) :
    acronym (w ++ rest) = w ++ acronym rest := by
  induction w with
  | nil => rfl
  | cons c w ih =>
    obtain ⟨hc, hw⟩ := List.forall_mem_cons.1 hw
    have hnext : startsLower (w ++ rest) = false := by
      cases w with
      | nil => exact hrest
      | cons d w => exact isLower_eq_false_of_isUpper (hw d (by simp))
    rw [List.cons_append, acronym, hc, hnext, ih hw]
    rfl

/-- Capitals in front are a word if the rest begins with no small letter and with no acronym. -/
theorem leadingWord_append_of_isUpper (hw : ∀ c ∈ w, c.isUpper = true)
    (hlower : startsLower rest = false) (hrest : acronym rest = []) (hne : w ≠ []) :
    leadingWord (w ++ rest) = w := by
  have happend : acronym (w ++ rest) = w := by rw [acronym_append hw hlower, hrest, List.append_nil]
  obtain ⟨c, w, rfl⟩ := List.exists_cons_of_ne_nil hne
  obtain ⟨hc, hw⟩ := List.forall_mem_cons.1 hw
  have hnext : startsLower (w ++ rest) = false := by
    cases w with
    | nil => exact hlower
    | cons d w => exact isLower_eq_false_of_isUpper (hw d (by simp))
  rw [List.cons_append, leadingWord_of_isUpper hc, hnext]
  rw [List.cons_append, acronym, hc, hnext] at happend
  exact happend

/-- A letter with small letters behind it is a word up to the first character that is no small
letter. -/
theorem leadingWord_append_of_isLower (hc : c.isLower = true ∨ c.isUpper = true ∧ w ≠ [])
    (hw : ∀ d ∈ w, d.isLower = true) (hrest : startsLower rest = false) :
    leadingWord (c :: w ++ rest) = c :: w := by
  have htake : (w ++ rest).takeWhile Char.isLower = w := by
    refine takeWhile_append_of_stop hw ?_
    cases rest with
    | nil => simp
    | cons d rest => exact fun e he => by cases he; exact hrest
  rcases hc with hc | ⟨hc, hne⟩
  · rw [List.cons_append, leadingWord_of_isLower hc, htake]
  · obtain ⟨d, w, rfl⟩ := List.exists_cons_of_ne_nil hne
    have hstarts : startsLower (d :: w ++ rest) = true := hw d (by simp)
    rw [List.cons_append, leadingWord_of_isUpper hc, hstarts, if_pos rfl, htake]

/-! ### Parts of joined names -/

/-- Whether a word is a number. -/
def isDigits (w : List Char) : Bool := w.all isDigit

/-- Whether a word is a single capital. -/
def isInitial : List Char → Bool
  | [c] => c.isUpper
  | _ => false

/-- Whether two parts that stand side by side are read as one word. -/
def sticks (v w : List Char) : Bool := (isDigits v && isDigits w) || (isInitial v && isInitial w)

/-- How a word stands in a joined name: a number, or letters of which the first can be a capital. -/
inductive IsPart : List Char → Prop
  | number {w : List Char} (hne : w ≠ []) (h : isDigits w = true) : IsPart w
  | letters {c : Char} {w : List Char} (hc : c.isUpper = true ∨ c.isLower = true)
    (hw : ∀ d ∈ w, d.isLower = true) : IsPart (c :: w)

theorem isDigits_iff : isDigits w = true ↔ ∀ c ∈ w, isDigit c = true := by
  rw [isDigits, List.all_eq_true]

theorem isInitial_iff : isInitial w = true ↔ ∃ c, w = [c] ∧ c.isUpper = true := by
  constructor
  · intro h
    match w, h with
    | [c], h => exact ⟨c, rfl, h⟩
  · rintro ⟨c, rfl, h⟩
    exact h

theorem isDigits_eq_false_of_isInitial (h : isInitial w = true) : isDigits w = false := by
  obtain ⟨c, rfl, hc⟩ := isInitial_iff.1 h
  simp [isDigits, isDigit_eq_false_of_isUpper hc]

theorem IsPart.ne_nil (h : IsPart w) : w ≠ [] := by
  cases h with
  | number hne _ => exact hne
  | letters _ _ => simp

theorem IsPart.standsInWord (h : IsPart w) : ∀ c ∈ w, standsInWord c = true := by
  cases h with
  | number _ h => exact fun c hc => standsInWord_iff.2 (.inr (.inr (isDigits_iff.1 h c hc)))
  | letters hc hw =>
    refine List.forall_mem_cons.2 ⟨standsInWord_iff.2 (hc.imp id .inl), ?_⟩
    exact fun d hd => standsInWord_iff.2 (.inr (.inl (hw d hd)))

/-- A part that is no number and no single capital is letters that go on in lower case. -/
theorem IsPart.eq_letters (h : IsPart w) (hnumber : isDigits w = false)
    (hcapital : isInitial w = false) :
    ∃ c cs, w = c :: cs ∧ (c.isLower = true ∨ c.isUpper = true ∧ cs ≠ []) ∧
      ∀ d ∈ cs, d.isLower = true := by
  cases h with
  | number _ h => simp [h] at hnumber
  | @letters c cs hc hcs =>
    refine ⟨c, cs, rfl, ?_, hcs⟩
    rcases hc with hu | hl
    · refine .inr ⟨hu, ?_⟩
      rintro rfl
      rw [isInitial, hu] at hcapital
      cases hcapital
    · exact .inl hl

/-- Digits stop before a part that is no number. -/
theorem IsPart.isDigit_head (h : IsPart v) (hnumber : isDigits v = false) :
    ∀ c ∈ (v ++ rest).head?, isDigit c = false := by
  cases h with
  | number _ h => simp [h] at hnumber
  | letters hc _ =>
    rintro _ ⟨⟩
    rcases hc with hu | hl
    · exact isDigit_eq_false_of_isUpper hu
    · exact isDigit_eq_false_of_isLower hl

/-- Capitals stop before a part that is no single capital. -/
theorem IsPart.acronym_append (h : IsPart v) (hcapital : isInitial v = false) :
    acronym (v ++ rest) = [] := by
  cases h with
  | number hne hv =>
    obtain ⟨c, v, rfl⟩ := List.exists_cons_of_ne_nil hne
    have hc : isDigit c = true := isDigits_iff.1 hv c (by simp)
    rw [List.cons_append, acronym, isUpper_eq_false_of_isDigit hc]
    rfl
  | @letters c cs _ hcs =>
    rw [List.cons_append, acronym]
    cases cs with
    | nil =>
      have hc : c.isUpper = false := hcapital
      rw [hc]
      rfl
    | cons d cs =>
      have hstarts : startsLower (d :: cs ++ rest) = true := hcs d (by simp)
      rw [hstarts]
      simp

/-- Where a part begins with no small letter, the text with more behind it does not either. -/
theorem IsPart.startsLower_append (h : IsPart v) (hv : startsLower v = false) :
    startsLower (v ++ rest) = false := by
  obtain ⟨c, v, rfl⟩ := List.exists_cons_of_ne_nil h.ne_nil
  exact hv

/-! ### Runs of parts -/

/-- Parts that all stick together are numbers or single capitals, unless there is only one. -/
theorem run_cases (hne : group ≠ []) (hparts : ∀ v ∈ group, IsPart v)
    (hchain : group.IsChain fun v w => sticks v w = true) :
    (∀ v ∈ group, isDigits v = true) ∨ (∀ v ∈ group, isInitial v = true) ∨
      ∃ v, group = [v] ∧ isDigits v = false ∧ isInitial v = false := by
  induction group with
  | nil => exact absurd rfl hne
  | cons v group ih =>
    cases group with
    | nil =>
      -- a single part can be anything
      cases hnumber : isDigits v with
      | true => exact .inl (by simpa using hnumber)
      | false =>
        cases hcapital : isInitial v with
        | true => exact .inr (.inl (by simpa using hcapital))
        | false => exact .inr (.inr ⟨v, rfl, hnumber, hcapital⟩)
    | cons w group =>
      obtain ⟨hsticks, hchain⟩ := List.isChain_cons_cons.1 hchain
      simp only [sticks, Bool.or_eq_true, Bool.and_eq_true] at hsticks
      have hrest := ih (by simp) (fun x hx => hparts x (List.mem_cons_of_mem v hx)) hchain
      -- the first part sticks to the second, which says of what sort the others are
      rcases hsticks with ⟨hv, hw⟩ | ⟨hv, hw⟩
      · rcases hrest with hall | hall | ⟨_, hsame, hnumber, -⟩
        · exact .inl (List.forall_mem_cons.2 ⟨hv, hall⟩)
        · have hnot := isDigits_eq_false_of_isInitial (hall w (by simp))
          simp [hw] at hnot
        · cases hsame
          simp [hw] at hnumber
      · rcases hrest with hall | hall | ⟨_, hsame, -, hcapital⟩
        · have hnot := isDigits_eq_false_of_isInitial hw
          simp [hall w (by simp)] at hnot
        · exact .inr (.inl (List.forall_mem_cons.2 ⟨hv, hall⟩))
        · cases hsame
          simp [hw] at hcapital

/-- A run of parts is read as one word before a text that begins with a part which does not stick to
it. -/
theorem leadingWord_run (hne : group ≠ []) (hparts : ∀ v ∈ group, IsPart v)
    (hchain : group.IsChain fun v w => sticks v w = true)
    (hlower : startsLower rest = false)
    (hrest : rest = [] ∨ ∃ v behind, rest = v ++ behind ∧ IsPart v ∧
      sticks (group.getLast hne) v = false) :
    leadingWord (group.flatten ++ rest) = group.flatten := by
  have hflat : group.flatten ≠ [] := by
    obtain ⟨v, group, rfl⟩ := List.exists_cons_of_ne_nil hne
    have := (hparts v (by simp)).ne_nil
    simp [this]
  rcases run_cases hne hparts hchain with hall | hall | ⟨v, rfl, hnumber, hcapital⟩
  · refine leadingWord_append_of_isDigit ?_ ?_ hflat
    · intro c hc
      obtain ⟨v, hv, hc⟩ := List.mem_flatten.1 hc
      exact isDigits_iff.1 (hall v hv) c hc
    · rcases hrest with rfl | ⟨v, behind, rfl, hv, hstop⟩
      · simp
      · rw [sticks, hall _ (List.getLast_mem hne)] at hstop
        exact hv.isDigit_head (by simpa using (Bool.or_eq_false_iff.1 hstop).1)
  · refine leadingWord_append_of_isUpper ?_ hlower ?_ hflat
    · intro c hc
      obtain ⟨v, hv, hc⟩ := List.mem_flatten.1 hc
      obtain ⟨d, rfl, hd⟩ := isInitial_iff.1 (hall v hv)
      rw [List.mem_singleton.1 hc]
      exact hd
    · rcases hrest with rfl | ⟨v, behind, rfl, hv, hstop⟩
      · rfl
      · rw [sticks, hall _ (List.getLast_mem hne)] at hstop
        exact hv.acronym_append (by simpa using (Bool.or_eq_false_iff.1 hstop).2)
  · obtain ⟨c, cs, rfl, hc, hcs⟩ := (hparts v (by simp)).eq_letters hnumber hcapital
    rw [List.flatten_singleton]
    exact leadingWord_append_of_isLower hc hcs hlower

/-- The text behind a run of parts begins with the first part of the next run. -/
theorem eq_nil_or_part_of_runs {group : List (List Char)} {gs : List (List (List Char))}
    (hparts : ∀ group ∈ gs, ∀ v ∈ group, IsPart v)
    (hlower : ∀ v ∈ gs.flatten, startsLower v = false) (hnil : group ≠ [])
    (hstop : (group :: gs).IsChain fun group next =>
      ∃ hg hn, sticks (group.getLast hg) (next.head hn) = false) :
    (gs.map List.flatten).flatten = [] ∨
      ∃ v behind, (gs.map List.flatten).flatten = v ++ behind ∧ IsPart v ∧
        startsLower v = false ∧ sticks (group.getLast hnil) v = false := by
  cases gs with
  | nil => exact .inl rfl
  | cons next gs =>
    obtain ⟨⟨_, hn, hsticks⟩, -⟩ := List.isChain_cons_cons.1 hstop
    obtain ⟨v, next, rfl⟩ := List.exists_cons_of_ne_nil hn
    refine .inr ⟨v, next.flatten ++ (gs.map List.flatten).flatten, ?_, ?_, ?_, hsticks⟩
    · simp
    · exact hparts (v :: next) (by simp) v (by simp)
    · exact hlower v (by simp)

/-- The words of runs of parts that do not stick to each other are these runs. -/
theorem words_runs (gs : List (List (List Char))) (hparts : ∀ group ∈ gs, ∀ v ∈ group, IsPart v)
    (hlower : ∀ v ∈ gs.flatten.tail, startsLower v = false) (hne : [] ∉ gs)
    (hchain : ∀ group ∈ gs, group.IsChain fun v w => sticks v w = true)
    (hstop : gs.IsChain fun group next =>
      ∃ hg hn, sticks (group.getLast hg) (next.head hn) = false) :
    words (gs.map List.flatten).flatten = gs.map List.flatten := by
  induction gs with
  | nil => rw [List.map_nil, List.flatten_nil, words_nil]
  | cons group gs ih =>
    -- on the number of runs; the first is read as a word and the others follow
    obtain ⟨hgroup, hgs⟩ := List.forall_mem_cons.1 hparts
    obtain ⟨hrun, hruns⟩ := List.forall_mem_cons.1 hchain
    rw [List.mem_cons, not_or] at hne
    obtain ⟨hnil, hne⟩ := hne
    have hnil : group ≠ [] := fun h => hnil h.symm
    obtain ⟨u, us, rfl⟩ := List.exists_cons_of_ne_nil hnil
    rw [List.flatten_cons, List.cons_append, List.tail_cons] at hlower
    have hbehind : ∀ v ∈ gs.flatten, startsLower v = false :=
      fun v hv => hlower v (List.mem_append_right us hv)
    have hih := ih hgs (fun v hv => hbehind v (List.mem_of_mem_tail hv)) hne hruns hstop.tail
    have hrest := eq_nil_or_part_of_runs hgs hbehind hnil hstop
    have hstarts : startsLower (gs.map List.flatten).flatten = false := by
      rcases hrest with hnone | ⟨v, behind, htext, hv, hvlower, -⟩
      · rw [hnone]
        rfl
      · rw [htext]
        exact hv.startsLower_append hvlower
    have hflat : (u :: us).flatten ≠ [] := by
      have := (hgroup u (by simp)).ne_nil
      simp [this]
    have hword := leadingWord_run hnil hgroup hrun hstarts
      (hrest.imp id fun ⟨v, behind, htext, hv, _, hsticks⟩ => ⟨v, behind, htext, hv, hsticks⟩)
    rw [List.map_cons, List.flatten_cons, words_append hflat hword, hih]

/-- The words of joined parts are the runs of parts that stick together. -/
theorem words_flatten (hparts : ∀ v ∈ vs, IsPart v)
    (hlower : ∀ v ∈ vs.tail, startsLower v = false) :
    words vs.flatten = (vs.splitBy sticks).map List.flatten := by
  obtain ⟨hflat, hne, hchain, hstop⟩ := List.splitBy_eq_iff.1 (rfl : vs.splitBy sticks = _)
  have hruns := words_runs (vs.splitBy sticks)
    (fun group hgroup v hv => hparts v (hflat ▸ List.mem_flatten_of_mem hgroup hv))
    (by rwa [← hflat]) hne hchain hstop
  rw [← List.flatten_flatten, ← hflat] at hruns
  exact hruns

/-! ### Parts that are read again -/

/-- As many runs as items are runs of one item each. -/
theorem eq_map_singleton_of_length {α : Type} {gs : List (List α)} (hne : [] ∉ gs)
    (h : gs.length = gs.flatten.length) : gs = gs.flatten.map ([·]) := by
  have hle : ∀ gs : List (List α), [] ∉ gs → gs.length ≤ gs.flatten.length := by
    intro gs hne
    induction gs with
    | nil => rfl
    | cons group gs ih =>
      rw [List.mem_cons, not_or] at hne
      have hpos : 0 < group.length := List.length_pos_iff.2 fun h => hne.1 h.symm
      have := ih hne.2
      rw [List.length_cons, List.flatten_cons, List.length_append]
      omega
  induction gs with
  | nil => rfl
  | cons group gs ih =>
    rw [List.mem_cons, not_or] at hne
    rw [List.length_cons, List.flatten_cons, List.length_append] at h
    have hpos : 0 < group.length := List.length_pos_iff.2 fun h => hne.1 h.symm
    have hrest := hle gs hne.2
    obtain ⟨a, rfl⟩ := List.length_eq_one_iff.1 (show group.length = 1 by omega)
    rw [List.length_singleton] at h
    rw [List.flatten_cons, List.map_append, ← ih hne.2 (by omega)]
    rfl

/-- A list falls apart into single items just if no two neighbours belong together. -/
theorem length_splitBy_eq_iff {α : Type} {r : α → α → Bool} {l : List α} :
    (l.splitBy r).length = l.length ↔ l.IsChain fun a b => r a b = false := by
  obtain ⟨hflat, hne, -, hstop⟩ := List.splitBy_eq_iff.1 (rfl : l.splitBy r = _)
  constructor
  · intro hlength
    have hsingle := eq_map_singleton_of_length hne (by rw [← hflat, hlength])
    rw [hsingle, ← hflat, List.isChain_map] at hstop
    exact hstop.imp fun a b ⟨_, _, h⟩ => h
  · intro hchain
    have hsplit : l.splitBy r = l.map ([·]) := by
      refine List.splitBy_eq_iff.2 ⟨?_, by simp, by simp, ?_⟩
      · rw [← List.flatMap_def, List.flatMap_singleton']
      · rw [List.isChain_map]
        exact hchain.imp fun a b h => ⟨by simp, by simp, h⟩
    rw [hsplit, List.length_map]

/-- Joined parts are read again, but for their case, exactly if no neighbours stick. -/
theorem plainWords_flatten_eq_iff (hparts : ∀ v ∈ vs, IsPart v)
    (hlower : ∀ v ∈ vs.tail, startsLower v = false) :
    plainWords vs.flatten = vs.map lowerText ↔ vs.IsChain fun v w => sticks v w = false := by
  rw [plainWords, words_flatten hparts hlower]
  constructor
  · intro h
    have hlength := congrArg List.length h
    rw [List.length_map, List.length_map, List.length_map] at hlength
    exact length_splitBy_eq_iff.1 hlength
  · intro h
    obtain ⟨hflat, hne, -, -⟩ := List.splitBy_eq_iff.1 (rfl : vs.splitBy sticks = _)
    have hsingle := eq_map_singleton_of_length hne
      (by rw [← hflat]; exact length_splitBy_eq_iff.2 h)
    rw [← hflat] at hsingle
    rw [hsingle, List.map_map, List.map_map]
    refine List.map_congr_left fun v _ => ?_
    simp

/-! ### Words as parts -/

/-- Whether a word is a single letter. -/
def isSingle : List Char → Bool
  | [c] => c.isUpper || c.isLower
  | _ => false

theorem isUpper_toUpper_of_letter (h : c.isUpper = true ∨ c.isLower = true) :
    c.toUpper.isUpper = true := by
  rcases h with hu | hl
  · rw [toUpper_of_not_isLower (isLower_eq_false_of_isUpper hu)]
    exact hu
  · exact isUpper_toUpper hl

theorem isLower_toLower_of_letter (h : c.isUpper = true ∨ c.isLower = true) :
    c.toLower.isLower = true := by
  rcases h with hu | hl
  · exact isLower_toLower hu
  · rw [toLower_of_not_isUpper (isUpper_eq_false_of_isLower hl)]
    exact hl

theorem isDigit_eq_false_of_letter (h : c.isUpper = true ∨ c.isLower = true) :
    isDigit c = false := by
  rcases h with hu | hl
  · exact isDigit_eq_false_of_isUpper hu
  · exact isDigit_eq_false_of_isLower hl

namespace IsWord

/-- A word is a number or consists of letters. -/
theorem isDigits_or_letters (h : IsWord w) :
    isDigits w = true ∨ isDigits w = false ∧ ∀ c ∈ w, c.isUpper = true ∨ c.isLower = true := by
  rcases h.letters_or_digits with hletters | hdigits
  · refine .inr ⟨?_, hletters⟩
    obtain ⟨c, cs, rfl⟩ := List.exists_cons_of_ne_nil h.ne_nil
    simp [isDigits, isDigit_eq_false_of_letter (hletters c (by simp))]
  · exact .inl (isDigits_iff.2 hdigits)

/-- A capitalized word has a capital first and small letters behind it. -/
theorem capitalized_eq (h : IsWord (c :: cs)) :
    capitalized (c :: cs) = c.toUpper :: cs.map Char.toLower := by
  obtain ⟨hc, hcs⟩ := List.forall_mem_cons.1 h.standsInWord
  rw [capitalized, lowerText_eq_map hcs, upperText_eq_map (List.forall_mem_singleton.2 hc)]
  rfl

/-- A number is the same in each case. -/
theorem lowerText_of_isDigits (h : IsWord w) (hnumber : isDigits w = true) : lowerText w = w := by
  rw [h.lowerText_eq]
  refine (List.map_congr_left fun d hd => ?_).trans (List.map_id _)
  exact toLower_of_not_isUpper (isUpper_eq_false_of_isDigit (isDigits_iff.1 hnumber d hd))

theorem capitalized_of_isDigits (h : IsWord w) (hnumber : isDigits w = true) :
    capitalized w = w := by
  have hlower := h.lowerText_of_isDigits hnumber
  rw [h.lowerText_eq] at hlower
  obtain ⟨c, cs, rfl⟩ := List.exists_cons_of_ne_nil h.ne_nil
  have hc : isDigit c = true := isDigits_iff.1 hnumber c (by simp)
  rw [h.capitalized_eq, toUpper_of_not_isLower (isLower_eq_false_of_isDigit hc),
    (List.cons.inj hlower).2]

/-- A capitalized word is a part of a joined name. -/
theorem isPart_capitalized (h : IsWord w) : IsPart (capitalized w) := by
  rcases h.isDigits_or_letters with hnumber | ⟨-, hletters⟩
  · rw [h.capitalized_of_isDigits hnumber]
    exact .number h.ne_nil hnumber
  · obtain ⟨c, cs, rfl⟩ := List.exists_cons_of_ne_nil h.ne_nil
    obtain ⟨hc, hcs⟩ := List.forall_mem_cons.1 hletters
    rw [h.capitalized_eq]
    refine .letters (.inl (isUpper_toUpper_of_letter hc)) ?_
    rw [List.forall_mem_map]
    exact fun d hd => isLower_toLower_of_letter (hcs d hd)

theorem lowerText_capitalized (h : IsWord w) : lowerText (capitalized w) = lowerText w := by
  have hstands := h.isPart_capitalized.standsInWord
  obtain ⟨c, cs, rfl⟩ := List.exists_cons_of_ne_nil h.ne_nil
  rw [lowerText_eq_map hstands, h.capitalized_eq, h.lowerText_eq, List.map_cons, List.map_cons,
    toLower_toUpper, List.map_map]
  exact congrArg _ (List.map_congr_left fun d _ => toLower_toLower d)

/-- With its first character in lower case, a capitalized word is a word in lower case. -/
theorem lowerFirstChars_append (h : IsWord w) (rest : List Char) :
    lowerFirstChars (capitalized w ++ rest) = lowerText w ++ rest := by
  have hstands := h.isPart_capitalized.standsInWord
  obtain ⟨c, cs, rfl⟩ := List.exists_cons_of_ne_nil h.ne_nil
  rw [h.capitalized_eq] at hstands ⊢
  rw [List.cons_append, lowerFirstChars, h.lowerText_eq,
    lowerText_eq_map (List.forall_mem_singleton.2 (hstands _ (by simp)))]
  simp only [List.map_cons, toLower_toUpper, List.map_nil, List.cons_append, List.nil_append]

theorem isPart_lowerText (h : IsWord w) : IsPart (lowerText w) := by
  rcases h.isDigits_or_letters with hnumber | ⟨-, hletters⟩
  · rw [h.lowerText_of_isDigits hnumber]
    exact .number h.ne_nil hnumber
  · rw [h.lowerText_eq]
    obtain ⟨c, cs, rfl⟩ := List.exists_cons_of_ne_nil h.ne_nil
    obtain ⟨hc, hcs⟩ := List.forall_mem_cons.1 hletters
    refine .letters (.inr (isLower_toLower_of_letter hc)) ?_
    rw [List.forall_mem_map]
    exact fun d hd => isLower_toLower_of_letter (hcs d hd)

theorem startsLower_capitalized (h : IsWord w) : startsLower (capitalized w) = false := by
  obtain ⟨c, cs, rfl⟩ := List.exists_cons_of_ne_nil h.ne_nil
  rcases h.isDigits_or_letters with hnumber | ⟨-, hletters⟩
  · rw [h.capitalized_of_isDigits hnumber]
    exact isLower_eq_false_of_isDigit (isDigits_iff.1 hnumber c (by simp))
  · rw [h.capitalized_eq]
    exact isLower_eq_false_of_isUpper (isUpper_toUpper_of_letter (hletters c (by simp)))

theorem isDigits_capitalized (h : IsWord w) : isDigits (capitalized w) = isDigits w := by
  rcases h.isDigits_or_letters with hnumber | ⟨hnumber, hletters⟩
  · rw [h.capitalized_of_isDigits hnumber]
  · obtain ⟨c, cs, rfl⟩ := List.exists_cons_of_ne_nil h.ne_nil
    have hc := isUpper_toUpper_of_letter (hletters c (by simp))
    rw [hnumber, h.capitalized_eq, isDigits, List.all_cons, isDigit_eq_false_of_isUpper hc,
      Bool.false_and]

theorem isDigits_lowerText (h : IsWord w) : isDigits (lowerText w) = isDigits w := by
  rcases h.isDigits_or_letters with hnumber | ⟨hnumber, hletters⟩
  · rw [h.lowerText_of_isDigits hnumber]
  · rw [h.lowerText_eq]
    obtain ⟨c, cs, rfl⟩ := List.exists_cons_of_ne_nil h.ne_nil
    have hc := isLower_toLower_of_letter (hletters c (by simp))
    rw [hnumber, List.map_cons, isDigits, List.all_cons, isDigit_eq_false_of_isLower hc,
      Bool.false_and]

/-- A capitalized word is a single capital just if the word is a single letter. -/
theorem isInitial_capitalized (h : IsWord w) : isInitial (capitalized w) = isSingle w := by
  obtain ⟨c, cs, rfl⟩ := List.exists_cons_of_ne_nil h.ne_nil
  cases cs with
  | cons d cs =>
    rw [h.capitalized_eq]
    rfl
  | nil =>
    rcases h.isDigits_or_letters with hnumber | ⟨-, hletters⟩
    · have hc : isDigit c = true := isDigits_iff.1 hnumber c (by simp)
      rw [h.capitalized_of_isDigits hnumber, isInitial, isSingle, isUpper_eq_false_of_isDigit hc,
        isLower_eq_false_of_isDigit hc]
      rfl
    · have hc := hletters c (by simp)
      rw [h.capitalized_eq, List.map_nil, isInitial, isSingle, isUpper_toUpper_of_letter hc]
      simpa using hc

theorem isInitial_lowerText (h : IsWord w) : isInitial (lowerText w) = false := by
  rw [h.lowerText_eq]
  obtain ⟨c, cs, rfl⟩ := List.exists_cons_of_ne_nil h.ne_nil
  cases cs with
  | cons d cs => rfl
  | nil =>
    rcases h.isDigits_or_letters with hnumber | ⟨-, hletters⟩
    · have hc : isDigit c = true := isDigits_iff.1 hnumber c (by simp)
      rw [List.map_cons, toLower_of_not_isUpper (isUpper_eq_false_of_isDigit hc)]
      exact isUpper_eq_false_of_isDigit hc
    · exact isUpper_eq_false_of_isLower (isLower_toLower_of_letter (hletters c (by simp)))

end IsWord

/-! ### Joined names -/

/-- Whether no two words that follow each other pass a test. -/
def NeverTwice (test : List Char → Bool) (ws : List (List Char)) : Prop :=
  ws.IsChain fun v w => ¬ (test v = true ∧ test w = true)

/-- Capitalized words stick if they are two letters or two numbers. -/
theorem isChain_capitalized_iff {ws : List (List Char)} (hws : ∀ w ∈ ws, IsWord w) :
    ((ws.map capitalized).IsChain fun v w => sticks v w = false) ↔
      NeverTwice isSingle ws ∧ NeverTwice isDigits ws := by
  have hsticks : ∀ v ∈ ws, ∀ w ∈ ws, sticks (capitalized v) (capitalized w) = false ↔
      ¬ (isSingle v = true ∧ isSingle w = true) ∧ ¬ (isDigits v = true ∧ isDigits w = true) := by
    intro v hv w hw
    rw [sticks, (hws v hv).isDigits_capitalized, (hws w hw).isDigits_capitalized,
      (hws v hv).isInitial_capitalized, (hws w hw).isInitial_capitalized, Bool.or_eq_false_iff,
      and_comm, ← Bool.and_eq_true, ← Bool.and_eq_true, Bool.not_eq_true, Bool.not_eq_true]
  rw [List.isChain_map]
  simp only [NeverTwice, List.isChain_iff_getElem, ← forall_and]
  exact forall₂_congr fun i hi => hsticks _ (List.getElem_mem _) _ (List.getElem_mem _)

/-- Two names come to the same in snake case just if they have the same words up to case. -/
theorem snakeChars_eq_iff {ds : List Char} :
    snakeChars cs = snakeChars ds ↔ plainWords cs = plainWords ds := by
  constructor
  · intro h
    rw [← plainWords_snakeChars cs, ← plainWords_snakeChars ds, h]
  · exact congrArg (['_'].intercalate ·)

/-- A name in Pascal case keeps its words just if no two single letters and no two numbers follow
each other. -/
theorem plainWords_pascalChars_iff (cs : List Char) :
    plainWords (pascalChars cs) = plainWords cs ↔
      NeverTwice isSingle (words cs) ∧ NeverTwice isDigits (words cs) := by
  have hwords : ∀ w ∈ words cs, IsWord w := fun w hw => isWord_of_mem_words hw
  have hparts : ∀ v ∈ (words cs).map capitalized, IsPart v :=
    List.forall_mem_map.2 fun w hw => (hwords w hw).isPart_capitalized
  have hlower : ∀ v ∈ (words cs).map capitalized, startsLower v = false :=
    List.forall_mem_map.2 fun w hw => (hwords w hw).startsLower_capitalized
  have hplain : plainWords cs = ((words cs).map capitalized).map lowerText := by
    rw [List.map_map]
    exact List.map_congr_left fun w hw => (hwords w hw).lowerText_capitalized.symm
  rw [pascalChars, List.flatMap_def, hplain,
    plainWords_flatten_eq_iff hparts fun v hv => hlower v (List.mem_of_mem_tail hv),
    isChain_capitalized_iff hwords]

/-- The first word of a name in camel case stands in lower case, so it sticks to no letter. -/
theorem plainWords_camelChars_iff (cs : List Char) :
    plainWords (camelChars cs) = plainWords cs ↔
      NeverTwice isDigits (words cs) ∧ NeverTwice isSingle (words cs).tail := by
  rw [camelChars, pascalChars]
  have hwords : ∀ w ∈ words cs, IsWord w := fun w hw => isWord_of_mem_words hw
  rw [plainWords.eq_def cs]
  -- nothing is used of the words but that each of them is one
  generalize words cs = ws at hwords
  cases ws with
  | nil => simp [NeverTwice, lowerFirstChars, plainWords]
  | cons w ws =>
    obtain ⟨hw, hws⟩ := List.forall_mem_cons.1 hwords
    -- the parts of the name are the first word in lower case and the others capitalized
    have hparts : ∀ v ∈ lowerText w :: ws.map capitalized, IsPart v :=
      List.forall_mem_cons.2 ⟨hw.isPart_lowerText,
        List.forall_mem_map.2 fun v hv => (hws v hv).isPart_capitalized⟩
    have hlower : ∀ v ∈ (lowerText w :: ws.map capitalized).tail, startsLower v = false :=
      List.forall_mem_map.2 fun v hv => (hws v hv).startsLower_capitalized
    have hplain : (w :: ws).map lowerText = (lowerText w :: ws.map capitalized).map lowerText := by
      rw [List.map_cons, List.map_cons, hw.lowerText_lowerText, List.map_map]
      exact congrArg _ (List.map_congr_left fun v hv => (hws v hv).lowerText_capitalized.symm)
    rw [List.flatMap_cons, hw.lowerFirstChars_append, List.flatMap_def, ← List.flatten_cons, hplain,
      plainWords_flatten_eq_iff hparts hlower, List.tail_cons]
    cases ws with
    | nil => simp [NeverTwice]
    | cons v ws =>
      have hv : IsWord v := hws v (by simp)
      -- in lower case the first word sticks to the second just if both are numbers
      have hfirst : sticks (lowerText w) (capitalized v) = false ↔
          ¬ (isDigits w = true ∧ isDigits v = true) := by
        rw [sticks, hw.isDigits_lowerText, hv.isDigits_capitalized, hw.isInitial_lowerText,
          Bool.false_and, Bool.or_false, ← Bool.and_eq_true, Bool.not_eq_true]
      rw [List.map_cons, List.isChain_cons_cons, ← List.map_cons, isChain_capitalized_iff hws,
        hfirst, NeverTwice, NeverTwice, NeverTwice, List.isChain_cons_cons]
      tauto

namespace Convention

/-- A name can be brought back from `pascal_case` exactly if no two of its words that follow each
other are single letters or numbers, and from `camel_case` if these letters come behind the first
word. -/
theorem snake_joined_iff (s : String) :
    (snake.apply (pascal.apply s) = snake.apply s ↔
      NeverTwice isSingle (words s.toList) ∧ NeverTwice isDigits (words s.toList)) ∧
    (snake.apply (camel.apply s) = snake.apply s ↔
      NeverTwice isDigits (words s.toList) ∧ NeverTwice isSingle (words s.toList).tail) := by
  have hsnake : ∀ joined : Convention, snake.apply (joined.apply s) = snake.apply s ↔
      plainWords (joined.applyChars s.toList) = plainWords s.toList := by
    intro joined
    rw [apply, apply, apply, String.toList_ofList, String.ofList_inj]
    exact snakeChars_eq_iff
  rw [hsnake, hsnake]
  exact ⟨plainWords_pascalChars_iff s.toList, plainWords_camelChars_iff s.toList⟩

/-- Two letters behind the first word are read as one word. -/
example : camel.apply "at x y" = "atXY" ∧ snake.apply "atXY" = "at_xy" := by decide +kernel

end Convention

end MobileSchema
