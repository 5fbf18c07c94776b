import Mathlib.Data.List.Nodup
import Mathlib.Data.List.Perm.Basic
import MobileSchema.Proofs.Text.Splitting

/-!
# Where words are in a text

The words of a text are pieces of it, each with its place (`Piece`).  A list of pieces is a cut of
the text (`IsCut`) if its pieces are in order and not empty, if they cover the characters that stand
in words and no others, and if they keep neighbours together exactly where these are joined
(`Joined`).  A text has one cut and no more, and its words are the pieces of this cut
(`words_eq_cut`).

That there is a cut follows from how words are read (`Splits.exists_isCut`): a character in front
moves all pieces on, and is a piece of its own, goes to the first piece, or to none.  That there is
only one follows from what its pieces are, the longest runs of joined characters
(`IsCut.mem_iff_isRun`).
-/

namespace MobileSchema

variable {c d : Char} {cs : List Char} {ws : List (List Char)} {i : Nat}

/-! ### Pieces -/

/-- A piece of a text: its first place, and the first place behind it. -/
structure Piece where
  start : Nat
  stop : Nat
  deriving DecidableEq, Repr

namespace Piece

/-- Whether a place is in a piece. -/
def Covers (p : Piece) (i : Nat) : Prop := p.start ≤ i ∧ i < p.stop

/-- The characters of a piece. -/
def text (p : Piece) (cs : List Char) : List Char := cs.extract p.start p.stop

/-- The piece of a text with one more character in front. -/
def next (p : Piece) : Piece := ⟨p.start + 1, p.stop + 1⟩

variable {p : Piece}

theorem covers_next_succ : p.next.Covers (i + 1) ↔ p.Covers i := by
  simp only [Covers, next]
  omega

theorem not_covers_next_zero : ¬ p.next.Covers 0 := by
  simp only [Covers, next]
  omega

theorem text_next (c : Char) (cs : List Char) : p.next.text (c :: cs) = p.text cs := by
  simp [text, next]

end Piece

/-- Whether two places are in one of some pieces. -/
def Together (pieces : List Piece) (i j : Nat) : Prop := ∃ p ∈ pieces, p.Covers i ∧ p.Covers j

/-- Two places are together in the first piece or in one of the others. -/
theorem together_cons {p : Piece} {pieces : List Piece} {i j : Nat} :
    Together (p :: pieces) i j ↔ (p.Covers i ∧ p.Covers j) ∨ Together pieces i j := by
  simp [Together]

/-- Moving all pieces on keeps together what was. -/
theorem together_map_next_succ {pieces : List Piece} {i j : Nat} :
    Together (pieces.map Piece.next) (i + 1) (j + 1) ↔ Together pieces i j := by
  simp [Together, Piece.covers_next_succ]

theorem not_together_map_next_zero {pieces : List Piece} {j : Nat} :
    ¬ Together (pieces.map Piece.next) 0 j := by
  simp [Together, Piece.not_covers_next_zero]

/-! ### Cuts -/

/-- Whether a place of a text has a character that stands in words. -/
def WordAt (cs : List Char) (i : Nat) : Prop := ∃ c, cs[i]? = some c ∧ standsInWord c = true

/-- Whether the characters at a place and behind it are joined: two digits, two small letters, a
capital and a small letter, or two capitals that no small letter follows. -/
def Joined (cs : List Char) (i : Nat) : Prop :=
  ∃ c d, cs[i]? = some c ∧ cs[i + 1]? = some d ∧
    ((isDigit c = true ∧ isDigit d = true) ∨ (c.isLower = true ∧ d.isLower = true) ∨
      (c.isUpper = true ∧ d.isLower = true) ∨
      (c.isUpper = true ∧ d.isUpper = true ∧ ∀ e, cs[i + 2]? = some e → e.isLower = false))

/-- Whether some pieces are those that a text is to be cut into. -/
structure IsCut (cs : List Char) (pieces : List Piece) : Prop where
  ordered : pieces.Pairwise fun p q => p.stop ≤ q.start
  nonempty : ∀ p ∈ pieces, p.start < p.stop
  /-- what stands in words is in exactly one piece -/
  covers : ∀ i, WordAt cs i → ∃! p, p ∈ pieces ∧ p.Covers i
  /-- nothing else is in a piece -/
  only : ∀ p ∈ pieces, ∀ i, p.Covers i → WordAt cs i
  /-- neighbours are in one piece exactly if they are joined -/
  joins : ∀ i, WordAt cs i → WordAt cs (i + 1) → (Together pieces i (i + 1) ↔ Joined cs i)

theorem wordAt_cons_zero : WordAt (c :: cs) 0 ↔ standsInWord c = true := by
  simp [WordAt]

theorem wordAt_cons_succ : WordAt (c :: cs) (i + 1) ↔ WordAt cs i := Iff.rfl

theorem joined_cons_succ : Joined (c :: cs) (i + 1) ↔ Joined cs i := Iff.rfl

/-- No small letter follows just if the next character, if there is one, is none. -/
theorem startsLower_eq_false_iff :
    startsLower cs = false ↔ ∀ e, cs[0]? = some e → e.isLower = false := by
  cases cs with
  | nil => simp [startsLower]
  | cons c cs => simp [startsLower]

/-- The first two characters are joined just if the first goes on. -/
theorem joined_cons_zero : Joined (c :: cs) 0 ↔ goesOn c cs = true := by
  cases cs with
  | nil => simp [Joined, goesOn]
  | cons d cs =>
    have hrest : (∀ e, (c :: d :: cs)[0 + 2]? = some e → e.isLower = false) ↔
        startsLower cs = false := startsLower_eq_false_iff.symm
    simp only [Joined, hrest, goesOn, Bool.or_eq_true, Bool.and_eq_true, Bool.not_eq_true']
    simp [or_assoc, and_assoc]

/-- Joined characters stand in words. -/
theorem Joined.wordAt (h : Joined cs i) : WordAt cs i ∧ WordAt cs (i + 1) := by
  obtain ⟨c, d, hc, hd, hsorts⟩ := h
  refine ⟨⟨c, hc, ?_⟩, ⟨d, hd, ?_⟩⟩
  · rw [standsInWord_iff]
    rcases hsorts with h | h | h | h
    · exact .inr (.inr h.1)
    · exact .inr (.inl h.1)
    · exact .inl h.1
    · exact .inl h.1
  · rw [standsInWord_iff]
    rcases hsorts with h | h | h | h
    · exact .inr (.inr h.2)
    · exact .inr (.inl h.2)
    · exact .inr (.inl h.2)
    · exact .inl h.2.1

/-- Pieces in order share no place. -/
theorem eq_of_covers {pieces : List Piece} {p q : Piece}
    (hordered : pieces.Pairwise fun p q => p.stop ≤ q.start) (hp : p ∈ pieces) (hq : q ∈ pieces)
    (hpi : p.Covers i) (hqi : q.Covers i) : p = q := by
  induction pieces with
  | nil => cases hp
  | cons first rest ih =>
    obtain ⟨hfirst, hrest⟩ := List.pairwise_cons.1 hordered
    simp only [Piece.Covers] at hpi hqi
    rcases List.mem_cons.1 hp with rfl | hp' <;> rcases List.mem_cons.1 hq with rfl | hq'
    · rfl
    · have := hfirst q hq'
      omega
    · have := hfirst p hp'
      omega
    · exact ih hrest hp' hq'

variable {pieces : List Piece}

/-- What a cut comes to, place by place. -/
theorem isCut_iff : IsCut cs pieces ↔
    (pieces.Pairwise fun p q => p.stop ≤ q.start) ∧ (∀ p ∈ pieces, p.start < p.stop) ∧
      (∀ i, Together pieces i i ↔ WordAt cs i) ∧
      (∀ i, Together pieces i (i + 1) ↔ Joined cs i) := by
  constructor
  · intro h
    refine ⟨h.ordered, h.nonempty, fun i => ⟨?_, ?_⟩, fun i => ⟨?_, ?_⟩⟩
    · rintro ⟨p, hp, hi, -⟩
      exact h.only p hp i hi
    · intro hi
      obtain ⟨p, ⟨hp, hcovers⟩, -⟩ := h.covers i hi
      exact ⟨p, hp, hcovers, hcovers⟩
    · -- two places in one piece are both in words, where being joined decides
      intro htogether
      obtain ⟨p, hp, hi, hnext⟩ := id htogether
      exact (h.joins i (h.only p hp i hi) (h.only p hp _ hnext)).1 htogether
    · intro hjoined
      exact (h.joins i hjoined.wordAt.1 hjoined.wordAt.2).2 hjoined
  · rintro ⟨hordered, hnonempty, hcovers, hjoins⟩
    refine ⟨hordered, hnonempty, ?_, ?_, fun i _ _ => hjoins i⟩
    · intro i hi
      -- pieces that cover the same place are the same, since they stand in order
      obtain ⟨p, hp, hpi, -⟩ := (hcovers i).2 hi
      exact ⟨p, ⟨hp, hpi⟩, fun q hq => eq_of_covers hordered hq.1 hp hq.2 hpi⟩
    · intro p hp i hi
      exact (hcovers i).1 ⟨p, hp, hi, hi⟩

/-- Neighbours are in one piece just if they are joined. -/
theorem IsCut.together_iff (h : IsCut cs pieces) : Together pieces i (i + 1) ↔ Joined cs i :=
  (isCut_iff.1 h).2.2.2 i

/-! ### Every text has a cut -/

theorem pairwise_map_next (h : pieces.Pairwise fun p q => p.stop ≤ q.start) :
    (pieces.map Piece.next).Pairwise fun p q => p.stop ≤ q.start := by
  rw [List.pairwise_map]
  exact h.imp fun hpq => Nat.succ_le_succ hpq

theorem nonempty_map_next (h : ∀ p ∈ pieces, p.start < p.stop) :
    ∀ p ∈ pieces.map Piece.next, p.start < p.stop := by
  intro p hp
  obtain ⟨q, hq, rfl⟩ := List.mem_map.1 hp
  exact Nat.succ_lt_succ (h q hq)

theorem isCut_nil : IsCut [] [] := by
  simp [isCut_iff, Together, WordAt, Joined]

/-- A character in no word moves the cut on. -/
theorem IsCut.skip (h : IsCut cs pieces) (hc : standsInWord c = false) :
    IsCut (c :: cs) (pieces.map Piece.next) := by
  obtain ⟨hordered, hnonempty, hcovers, hjoins⟩ := isCut_iff.1 h
  refine isCut_iff.2 ⟨pairwise_map_next hordered, nonempty_map_next hnonempty, ?_, ?_⟩
  · rintro (_ | i)
    · simp [not_together_map_next_zero, wordAt_cons_zero, hc]
    · rw [together_map_next_succ, wordAt_cons_succ, hcovers]
  · rintro (_ | i)
    · have hstop : goesOn c cs = false := by
        rw [← Bool.not_eq_true]
        intro hgoes
        rw [standsInWord_of_goesOn hgoes] at hc
        cases hc
      simp [not_together_map_next_zero, joined_cons_zero, hstop]
    · rw [together_map_next_succ, joined_cons_succ, hjoins]

/-- A character that does not go on is a piece of its own. -/
theorem IsCut.start (h : IsCut cs pieces) (hc : standsInWord c = true)
    (hstop : goesOn c cs = false) : IsCut (c :: cs) (⟨0, 1⟩ :: pieces.map Piece.next) := by
  obtain ⟨hordered, hnonempty, hcovers, hjoins⟩ := isCut_iff.1 h
  refine isCut_iff.2 ⟨?_, ?_, ?_, ?_⟩
  · refine List.pairwise_cons.2 ⟨?_, pairwise_map_next hordered⟩
    intro q hq
    obtain ⟨p, -, rfl⟩ := List.mem_map.1 hq
    exact Nat.succ_le_succ (Nat.zero_le _)
  · exact List.forall_mem_cons.2 ⟨Nat.zero_lt_one, nonempty_map_next hnonempty⟩
  · rintro (_ | i)
    · simp [together_cons, Piece.Covers, wordAt_cons_zero, hc]
    · rw [together_cons, together_map_next_succ, wordAt_cons_succ, hcovers]
      simp [Piece.Covers]
  · rintro (_ | i)
    · simp [together_cons, Piece.Covers, not_together_map_next_zero, joined_cons_zero, hstop]
    · rw [together_cons, together_map_next_succ, joined_cons_succ, hjoins]
      simp [Piece.Covers]

/-- A character that goes on makes the first piece longer. -/
theorem IsCut.goOn {n : Nat} (h : IsCut cs (⟨0, n⟩ :: pieces)) (hgoes : goesOn c cs = true) :
    IsCut (c :: cs) (⟨0, n + 1⟩ :: pieces.map Piece.next) := by
  obtain ⟨hordered, hnonempty, hcovers, hjoins⟩ := isCut_iff.1 h
  obtain ⟨hfirst, hordered⟩ := List.pairwise_cons.1 hordered
  obtain ⟨hn, hnonempty⟩ := List.forall_mem_cons.1 hnonempty
  have hn : 0 < n := hn
  refine isCut_iff.2 ⟨?_, ?_, ?_, ?_⟩
  · refine List.pairwise_cons.2 ⟨?_, pairwise_map_next hordered⟩
    intro q hq
    obtain ⟨p, hp, rfl⟩ := List.mem_map.1 hq
    exact Nat.succ_le_succ (hfirst p hp)
  · exact List.forall_mem_cons.2 ⟨Nat.succ_pos n, nonempty_map_next hnonempty⟩
  · rintro (_ | i)
    · simp [together_cons, Piece.Covers, wordAt_cons_zero, standsInWord_of_goesOn hgoes]
    · rw [together_cons, together_map_next_succ, wordAt_cons_succ, ← hcovers, together_cons]
      simp [Piece.Covers]
  · rintro (_ | i)
    · simp [together_cons, Piece.Covers, joined_cons_zero, hgoes, hn]
    · rw [together_cons, together_map_next_succ, joined_cons_succ, ← hjoins, together_cons]
      simp [Piece.Covers]

/-- A character that stands in a word begins the first piece. -/
theorem IsCut.exists_first (h : IsCut (c :: cs) pieces) (hc : standsInWord c = true) :
    ∃ n rest, pieces = ⟨0, n⟩ :: rest := by
  obtain ⟨p, ⟨hp, hcovers⟩, -⟩ := h.covers 0 (wordAt_cons_zero.2 hc)
  cases pieces with
  | nil => cases hp
  | cons first rest =>
    have hstart : first.start = 0 := by
      rcases List.mem_cons.1 hp with rfl | hp
      · exact Nat.le_zero.1 hcovers.1
      · have hle := (List.pairwise_cons.1 h.ordered).1 p hp
        have hlt := h.nonempty first List.mem_cons_self
        have hzero : p.start ≤ 0 := hcovers.1
        omega
    obtain ⟨start, n⟩ := first
    cases hstart
    exact ⟨n, rest, rfl⟩

/-- What is read as the words of a text are the pieces of a cut. -/
theorem Splits.exists_isCut (h : Splits cs ws) :
    ∃ pieces, IsCut cs pieces ∧ ws = pieces.map (·.text cs) := by
  -- behind one more character, the pieces that were there cut out the same texts
  have hnext : ∀ (c : Char) (cs : List Char) (pieces : List Piece),
      (pieces.map Piece.next).map (·.text (c :: cs)) = pieces.map (·.text cs) := by
    intro c cs pieces
    rw [List.map_map]
    exact List.map_congr_left fun p _ => p.text_next c cs
  induction h with
  | nil => exact ⟨[], isCut_nil, rfl⟩
  | skip hc _ ih =>
    obtain ⟨pieces, hcut, rfl⟩ := ih
    exact ⟨_, hcut.skip hc, (hnext _ _ pieces).symm⟩
  | start hc hstop _ ih =>
    obtain ⟨pieces, hcut, rfl⟩ := ih
    refine ⟨_, hcut.start hc hstop, ?_⟩
    rw [List.map_cons, hnext]
    rfl
  | goOn hgoes _ ih =>
    obtain ⟨pieces, hcut, hws⟩ := ih
    -- the first piece starts where the text does, and now it is longer by one
    obtain ⟨n, rest, rfl⟩ := hcut.exists_first (standsInWord_next_of_goesOn hgoes)
    obtain ⟨hw, rfl⟩ := List.cons.inj hws
    refine ⟨_, hcut.goOn hgoes, ?_⟩
    rw [List.map_cons, hnext, hw]
    simp [Piece.text]

/-! ### No text has two cuts -/

/-- Whether a piece is a run of joined characters that no other character is joined to. -/
structure IsRun (cs : List Char) (p : Piece) : Prop where
  nonempty : p.start < p.stop
  words : ∀ i, p.Covers i → WordAt cs i
  joined : ∀ i, p.Covers i → p.Covers (i + 1) → Joined cs i
  before : ∀ i, i + 1 = p.start → ¬ Joined cs i
  behind : ∀ i, i + 1 = p.stop → ¬ Joined cs i

/-- A piece is a longest run of joined characters. -/
theorem IsCut.isRun {p : Piece} (h : IsCut cs pieces) (hp : p ∈ pieces) : IsRun cs p where
  nonempty := h.nonempty p hp
  words := h.only p hp
  joined := fun i hi hnext => h.together_iff.1 ⟨p, hp, hi, hnext⟩
  before := by
    intro i hi hjoined
    obtain ⟨q, hq, hqi, hqnext⟩ := h.together_iff.2 hjoined
    have hpnext : p.Covers (i + 1) := ⟨Nat.le_of_eq hi.symm, hi ▸ h.nonempty p hp⟩
    obtain rfl := eq_of_covers h.ordered hq hp hqnext hpnext
    have := hqi.1
    omega
  behind := by
    intro i hi hjoined
    obtain ⟨q, hq, hqi, hqnext⟩ := h.together_iff.2 hjoined
    have hstart := h.nonempty p hp
    have hpi : p.Covers i := ⟨by omega, by omega⟩
    obtain rfl := eq_of_covers h.ordered hq hp hqi hpi
    have := hqnext.2
    omega

/-- A run is covered by the piece that covers its start. -/
theorem IsCut.covers_of_isRun {p q : Piece} (h : IsCut cs pieces) (hrun : IsRun cs p)
    (hq : q ∈ pieces) (hstart : q.Covers p.start) : ∀ i, p.Covers i → q.Covers i := by
  intro i hi
  obtain ⟨k, rfl⟩ := Nat.exists_eq_add_of_le hi.1
  induction k with
  | zero => exact hstart
  | succ k ih =>
    have hlast : p.Covers (p.start + k) := ⟨Nat.le_add_right _ _, Nat.lt_of_succ_lt hi.2⟩
    obtain ⟨r, hr, hrlast, hrnext⟩ := h.together_iff.2 (hrun.joined _ hlast hi)
    obtain rfl := eq_of_covers h.ordered hr hq hrlast (ih hlast)
    exact hrnext

/-- The pieces of a cut are the runs of the text. -/
theorem IsCut.mem_iff_isRun {p : Piece} (h : IsCut cs pieces) : p ∈ pieces ↔ IsRun cs p := by
  refine ⟨h.isRun, fun hrun => ?_⟩
  obtain ⟨q, ⟨hq, hstart⟩, -⟩ := h.covers p.start (hrun.words _ ⟨Nat.le_refl _, hrun.nonempty⟩)
  have hcovers := h.covers_of_isRun hrun hq hstart
  have hqrun := h.isRun hq
  -- the piece cannot reach over an end of the run, since nothing is joined there
  have hbefore : q.start = p.start := by
    by_contra hne
    obtain ⟨hle, hlt⟩ := hstart
    refine hrun.before (p.start - 1) (by omega) (hqrun.joined _ ⟨by omega, by omega⟩ ?_)
    exact ⟨by omega, by omega⟩
  have hbehind : q.stop = p.stop := by
    by_contra hne
    have hpos := hrun.nonempty
    obtain ⟨hle, hlt⟩ := hcovers (p.stop - 1) ⟨by omega, by omega⟩
    refine hrun.behind (p.stop - 1) (by omega) (hqrun.joined _ ⟨by omega, by omega⟩ ?_)
    exact ⟨by omega, by omega⟩
  have hsame : q = p := by
    obtain ⟨start, stop⟩ := q
    cases hbefore
    cases hbehind
    rfl
  exact hsame ▸ hq

/-- A text has no more than one cut. -/
theorem IsCut.eq {others : List Piece} (h : IsCut cs pieces) (h' : IsCut cs others) :
    pieces = others := by
  have hlt : ∀ {ps : List Piece}, IsCut cs ps → ps.Pairwise fun p q => p.start < q.start := by
    intro ps hps
    refine hps.ordered.imp_of_mem ?_
    intro p q hp _ hpq
    exact Nat.lt_of_lt_of_le (hps.nonempty p hp) hpq
  have hnodup : ∀ {ps : List Piece}, IsCut cs ps → ps.Nodup := by
    intro ps hps
    refine (hlt hps).imp ?_
    rintro p _ hpq rfl
    exact Nat.lt_irrefl _ hpq
  refine List.Perm.eq_of_pairwise ?_ (hlt h) (hlt h') ?_
  · intro p q _ _ hpq hqp
    exact absurd hpq (Nat.lt_asymm hqp)
  · rw [List.perm_ext_iff_of_nodup (hnodup h) (hnodup h')]
    intro p
    rw [h.mem_iff_isRun, h'.mem_iff_isRun]

/-- The words of a text are the pieces of its only cut.  One after another they are the text without
the characters that stand in no word.  That they are the matches of the pattern of words, read from
left to right with its alternatives in order, is `findAll_wordMatcher`. -/
theorem words_eq_cut (cs : List Char) :
    (∀ ws, ws = words cs ↔ ∃ pieces, IsCut cs pieces ∧ ws = pieces.map (·.text cs)) ∧
      (words cs).flatten = cs.filter standsInWord := by
  refine ⟨fun ws => ⟨?_, ?_⟩, flatten_words cs⟩
  · rintro rfl
    exact (splits_words cs).exists_isCut
  · rintro ⟨pieces, hcut, rfl⟩
    obtain ⟨others, hothers, hwords⟩ := (splits_words cs).exists_isCut
    rw [hwords, hcut.eq hothers]

end MobileSchema
