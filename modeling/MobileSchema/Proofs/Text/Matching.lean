import MobileSchema.Proofs.Text.Splitting
import MobileSchema.Text.Letter

/-!
# Words as matches of a pattern

Words can also be described by a pattern whose parts are tried in a fixed order: capitals up to a
place where a word can end, else small letters with a capital before them or without, else capitals,
else digits (`wordMatcher`).  A run takes as many characters as it can and gives them back one by
one if what follows does not match.  A word of capitals can end before a capital with a small
letter, before a digit or an underscore, and at the edge of what is like an identifier.

The words of a text are the matches of this pattern from left to right (`findAll_wordMatcher`).
Only the first part of the pattern needs an induction: how many capitals a run has to give back
depends on what comes behind it, and if no end is found the whole run is left to the third part
(`head?_capitalEnds`).
-/

namespace MobileSchema

variable {c d : Char} {before cs : List Char}

/-! ### Patterns that are tried in order -/

/-- A place in a text: what is before it, last character first, and what is behind it. -/
structure Spot where
  before : List Char
  rest : List Char
  deriving DecidableEq, Repr

namespace Spot

/-- Whether a character is like a part of an identifier. -/
def isWordLike (c : Char) : Bool := isAlphanumeric c || c = '_'

/-- Whether a place has a character like those of identifiers on just one of its sides. -/
def atEdge (s : Spot) : Bool := s.before.head?.any isWordLike != s.rest.head?.any isWordLike

/-- The place behind some characters. -/
def behind (s : Spot) (w : List Char) : Spot := ⟨w.reverse ++ s.before, s.rest.drop w.length⟩

/-- Going on behind a word can be done character by character. -/
theorem behind_cons (w : List Char) :
    (⟨before, c :: cs⟩ : Spot).behind (c :: w) = (⟨c :: before, cs⟩ : Spot).behind w := by
  simp [behind]

end Spot

/-- The place behind one character of a sort. -/
def oneEnd (sort : Char → Bool) : Spot → List Spot
  | ⟨before, c :: rest⟩ => if sort c then [⟨c :: before, rest⟩] else []
  | ⟨_, []⟩ => []

/-- The places behind characters of a sort, one or more, the last place first. -/
def runEnds (sort : Char → Bool) (before : List Char) : List Char → List Spot
  | [] => []
  | c :: rest =>
    if sort c then runEnds sort (c :: before) rest ++ [⟨c :: before, rest⟩] else []

/-- A pattern. -/
inductive Matcher
  | one (sort : Char → Bool)
  | run (sort : Char → Bool)
  | optional (sort : Char → Bool)
  | inTurn (first second : Matcher)
  | either (first second : Matcher)
  /-- what follows matches, but is not taken -/
  | ahead (m : Matcher)
  | edge

/-- The places to which a pattern can lead, the one that is preferred first. -/
def Matcher.ends : Matcher → Spot → List Spot
  | one sort, s => oneEnd sort s
  | run sort, s => runEnds sort s.before s.rest
  | optional sort, s => oneEnd sort s ++ [s]
  | inTurn first second, s => (first.ends s).flatMap second.ends
  | either first second, s => first.ends s ++ second.ends s
  | ahead m, s => if (m.ends s).isEmpty then [] else [s]
  | edge, s => if s.atEdge then [s] else []

/-- The matches of a pattern in the rest of a text, from left to right.  Where there is none, or the
preferred one is empty, a character is passed over. -/
def Matcher.findAll (m : Matcher) (before : List Char) : List Char → List (List Char)
  | [] => []
  | c :: cs =>
    match (m.ends ⟨before, c :: cs⟩).head? with
    | none => m.findAll (c :: before) cs
    | some after =>
      if h : after.rest.length ≤ cs.length then
        (c :: cs).take (cs.length + 1 - after.rest.length) :: m.findAll after.before after.rest
      else m.findAll (c :: before) cs
termination_by cs => cs.length

/-! ### The pattern of words -/

/-- What comes behind a word of capitals. -/
def wordEndMatcher : Matcher :=
  .either (.inTurn (.one Char.isUpper) (.one Char.isLower))
    (.either (.one isDigit) (.either .edge (.one (· = '_'))))

/-- The pattern of words. -/
def wordMatcher : Matcher :=
  .either (.inTurn (.run Char.isUpper) (.ahead wordEndMatcher))
    (.either (.inTurn (.optional Char.isUpper) (.run Char.isLower))
      (.either (.run Char.isUpper) (.run isDigit)))

theorem isWordLike_of_isLetter (h : c.isUpper = true ∨ c.isLower = true) :
    Spot.isWordLike c = true := by
  have hascii : c.toNat < 128 := by
    rw [isUpper_iff, isLower_iff] at h
    omega
  have halpha : c.isAlpha = true := Bool.or_eq_true_iff.2 h
  simp [Spot.isWordLike, isAlphanumeric, isLetter, hascii, halpha]

/-! ### Runs -/

variable {sort : Char → Bool}

/-- A run cannot begin with a character of another sort. -/
theorem runEnds_of_not (h : sort c = false) : runEnds sort before (c :: cs) = [] := by
  simp [runEnds, h]

/-- A run takes as many characters as it can. -/
theorem head?_runEnds (h : sort c = true) : (runEnds sort before (c :: cs)).head? =
    some ((⟨before, c :: cs⟩ : Spot).behind ((c :: cs).takeWhile sort)) := by
  induction cs generalizing c before with
  | nil => simp [runEnds, h, Spot.behind]
  | cons d cs ih =>
    rw [runEnds, if_pos h, List.takeWhile_cons_of_pos h, Spot.behind_cons]
    by_cases hd : sort d = true
    · rw [List.head?_append, ih hd]
      rfl
    · rw [Bool.not_eq_true] at hd
      rw [runEnds_of_not hd, List.takeWhile_cons_of_neg (by simp [hd])]
      rfl

/-! ### Runs of capitals up to a word's end -/

/-- Whether a word of capitals can end before some text. -/
def canEnd : List Char → Bool
  | [] => true
  | d :: cs => (d.isUpper && startsLower cs) || isDigit d || !Spot.isWordLike d || d = '_'

/-- Looking ahead for the end of a word takes nothing and finds it or not. -/
theorem ends_ahead_wordEndMatcher (h : c.isUpper = true) :
    (Matcher.ahead wordEndMatcher).ends ⟨c :: before, cs⟩ =
      if canEnd cs then [⟨c :: before, cs⟩] else [] := by
  have hlike : Spot.isWordLike c = true := isWordLike_of_isLetter (.inl h)
  cases cs with
  | nil => simp [Matcher.ends, wordEndMatcher, oneEnd, Spot.atEdge, hlike, canEnd]
  | cons d cs =>
    have hcapital : ((Matcher.one Char.isUpper).inTurn (.one Char.isLower)).ends
        ⟨c :: before, d :: cs⟩ = [] ↔ (d.isUpper && startsLower cs) = false := by
      cases hd : d.isUpper <;> cases cs <;> simp [Matcher.ends, oneEnd, hd, startsLower]
    simp only [Matcher.ends, wordEndMatcher] at hcapital ⊢
    simp only [List.isEmpty_iff, List.append_eq_nil_iff, hcapital]
    cases hd : (d.isUpper && startsLower cs) <;> cases hdigit : isDigit d <;>
      cases hword : Spot.isWordLike d <;> by_cases hu : d = '_' <;>
      simp [oneEnd, Spot.atEdge, canEnd, hd, hdigit, hword, hu, hlike]

/-- The places where a word of capitals can end. -/
def capitalEnds (before cs : List Char) : List Spot :=
  ((Matcher.run Char.isUpper).inTurn (.ahead wordEndMatcher)).ends ⟨before, cs⟩

theorem capitalEnds_of_not (h : c.isUpper = false) : capitalEnds before (c :: cs) = [] := by
  simp [capitalEnds, Matcher.ends, runEnds_of_not h]

/-- Behind a capital, the longer runs of capitals are tried first. -/
theorem capitalEnds_cons (h : c.isUpper = true) : capitalEnds before (c :: cs) =
    capitalEnds (c :: before) cs ++ if canEnd cs then [⟨c :: before, cs⟩] else [] := by
  rw [← ends_ahead_wordEndMatcher h]
  simp [capitalEnds, Matcher.ends, runEnds, h]

/-- A capital before a small letter is not taken for the end of an acronym. -/
theorem capitalEnds_of_startsLower (h : c.isUpper = true) (hs : startsLower cs = true) :
    capitalEnds before (c :: cs) = [] := by
  cases cs with
  | nil => cases hs
  | cons d cs =>
    have hd : d.isLower = true := hs
    have hend : canEnd (d :: cs) = false := by
      have hunder : d ≠ '_' := by rintro rfl; cases hd
      simp [canEnd, isUpper_eq_false_of_isLower hd, isDigit_eq_false_of_isLower hd,
        isWordLike_of_isLetter (.inr hd), hunder]
    rw [capitalEnds_cons h, hend, capitalEnds_of_not (isUpper_eq_false_of_isLower hd)]
    rfl

/-- Either the first end that is found is that of the acronym, or there is none and the acronym is
the whole run of capitals. -/
theorem head?_capitalEnds (h : c.isUpper = true) (hs : startsLower cs = false) :
    (capitalEnds before (c :: cs)).head? =
        some ((⟨before, c :: cs⟩ : Spot).behind (acronym (c :: cs))) ∨
      capitalEnds before (c :: cs) = [] ∧
        acronym (c :: cs) = (c :: cs).takeWhile Char.isUpper := by
  have hacronym : acronym (c :: cs) = c :: acronym cs := by simp [acronym, h, hs]
  rw [capitalEnds_cons h, hacronym, List.takeWhile_cons_of_pos h, Spot.behind_cons]
  induction cs generalizing c before with
  | nil => exact .inl rfl
  | cons d cs ih =>
    by_cases hd : d.isUpper = true
    · cases hlower : startsLower cs with
      | true =>
        -- the capital before a small letter is given back
        refine .inl ?_
        rw [capitalEnds_of_startsLower hd hlower]
        simp [canEnd, acronym, hd, hlower, Spot.behind]
      | false =>
        have hnext : acronym (d :: cs) = d :: acronym cs := by simp [acronym, hd, hlower]
        have hend : canEnd (d :: cs) = false := by
          have hunder : d ≠ '_' := by rintro rfl; cases hd
          simp [canEnd, hlower, isDigit_eq_false_of_isUpper hd, isWordLike_of_isLetter (.inl hd),
            hunder]
        rw [hend, if_neg Bool.false_ne_true, List.append_nil, capitalEnds_cons hd, hnext,
          List.takeWhile_cons_of_pos hd, Spot.behind_cons]
        rcases @ih d (c :: before) hd hlower hnext with hsome | ⟨hnone, hall⟩
        · exact .inl hsome
        · exact .inr ⟨hnone, by rw [hall]⟩
    · rw [Bool.not_eq_true] at hd
      have hnext : acronym (d :: cs) = [] := by simp [acronym, hd]
      rw [capitalEnds_of_not hd, hnext, List.takeWhile_cons_of_neg (by simp [hd]), List.nil_append]
      cases canEnd (d :: cs) with
      | true => exact .inl rfl
      | false => exact .inr ⟨rfl, rfl⟩

/-! ### Words as matches -/

/-- The preferred match at a character in a word is the word at the start. -/
theorem head?_ends_wordMatcher (h : standsInWord c = true) :
    (wordMatcher.ends ⟨before, c :: cs⟩).head? =
      some ((⟨before, c :: cs⟩ : Spot).behind (leadingWord (c :: cs))) := by
  -- the alternatives of the pattern, in their order
  have hsplit : wordMatcher.ends ⟨before, c :: cs⟩ = capitalEnds before (c :: cs) ++
      ((oneEnd Char.isUpper ⟨before, c :: cs⟩).flatMap fun s : Spot =>
        runEnds Char.isLower s.before s.rest) ++
      runEnds Char.isLower before (c :: cs) ++ runEnds Char.isUpper before (c :: cs) ++
      runEnds isDigit before (c :: cs) := by
    simp [wordMatcher, capitalEnds, Matcher.ends]
  rw [hsplit]
  -- the sort of the first character decides which alternative matches first
  rcases standsInWord_iff.1 h with hc | hc | hc
  · have hlower := isLower_eq_false_of_isUpper hc
    cases hs : startsLower cs with
    | true =>
      rw [capitalEnds_of_startsLower hc hs]
      cases cs with
      | nil => cases hs
      | cons d cs =>
        have hd : d.isLower = true := hs
        rw [leadingWord_of_isUpper hc, if_pos hs, Spot.behind_cons]
        simp [oneEnd, hc, head?_runEnds hd]
    | false =>
      have hword : leadingWord (c :: cs) = acronym (c :: cs) := by
        simp [leadingWord_of_isUpper hc, acronym, hc, hs]
      rw [hword]
      rcases @head?_capitalEnds c before cs hc hs with hsome | ⟨hnone, hall⟩
      · simp [hsome]
      · -- the second part does not match: no small letter comes next
        have hnext : runEnds Char.isLower (c :: before) cs = [] := by
          cases cs with
          | nil => rfl
          | cons d cs => exact runEnds_of_not hs
        rw [hnone, hall]
        simp [oneEnd, hc, hnext, runEnds_of_not hlower, head?_runEnds hc]
  · rw [capitalEnds_of_not (isUpper_eq_false_of_isLower hc), leadingWord_of_isLower hc,
      ← List.takeWhile_cons_of_pos hc]
    simp [oneEnd, isUpper_eq_false_of_isLower hc, head?_runEnds hc]
  · have hupper := isUpper_eq_false_of_isDigit hc
    rw [capitalEnds_of_not hupper, leadingWord_of_isDigit hc, ← List.takeWhile_cons_of_pos hc]
    simp [oneEnd, hupper, runEnds_of_not hupper, runEnds_of_not (isLower_eq_false_of_isDigit hc),
      head?_runEnds hc]

/-- Nothing matches at a character that stands in no word. -/
theorem ends_wordMatcher_of_not (h : standsInWord c = false) :
    wordMatcher.ends ⟨before, c :: cs⟩ = [] := by
  simp only [standsInWord, Bool.or_eq_false_iff] at h
  obtain ⟨⟨hupper, hlower⟩, hdigit⟩ := h
  simp [wordMatcher, Matcher.ends, oneEnd, runEnds_of_not, hupper, hlower, hdigit]

/-- A leading word is taken from the front. -/
theorem leadingWord_prefix (cs : List Char) : leadingWord cs <+: cs := by
  induction cs with
  | nil => exact List.prefix_rfl
  | cons c cs ih =>
    by_cases h : standsInWord c = true
    · rw [leadingWord_cons h, List.prefix_cons_inj]
      split
      · exact ih
      · exact List.nil_prefix
    · rw [leadingWord_of_not (by simpa using h)]
      exact List.nil_prefix

/-- The words of a text are the matches of the pattern of words, whatever is before the text. -/
theorem findAll_wordMatcher (before cs : List Char) : wordMatcher.findAll before cs = words cs := by
  -- by induction on how the words are read, for all that can be before the text
  induction cs using words.induct generalizing before with
  | case1 => rw [Matcher.findAll, words_nil]
  | case2 c cs hword ih =>
    have hc : standsInWord c = false := by
      rw [← Bool.not_eq_true]
      intro h
      rw [leadingWord_cons h] at hword
      cases hword
    rw [Matcher.findAll, ends_wordMatcher_of_not hc, words_cons_of_not hc]
    exact ih _
  | case3 c cs d w hword ih =>
    have hc : standsInWord c = true := by
      rw [← Bool.not_eq_false]
      intro h
      rw [leadingWord_of_not h] at hword
      cases hword
    obtain ⟨rfl, rest, rfl⟩ : d = c ∧ w <+: cs :=
      List.cons_prefix_cons.1 (hword ▸ leadingWord_prefix (c :: cs))
    rw [List.drop_left] at ih
    rw [Matcher.findAll, head?_ends_wordMatcher hc, hword, words_of_leadingWord hword,
      List.drop_left]
    simp only [Spot.behind, List.length_cons, List.drop_succ_cons, List.drop_left, ih]
    -- the part of the text that was matched is the word
    have htake : (w ++ rest).length + 1 - rest.length = w.length + 1 := by
      rw [List.length_append]
      omega
    rw [dif_pos (by simp), htake, List.take_succ_cons, List.take_left]

end MobileSchema
