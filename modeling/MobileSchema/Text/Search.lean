import MobileSchema.Text.Character

/-!
# Searching texts

Occurrences of a text in another, and the parts of a text between them.  Occurrences are found from
the left, or from the right, and do not overlap.
-/

namespace MobileSchema

/-! ### Occurrences -/

section Occurrences

variable {α : Type} [BEq α]

/-- What is before and what is behind the first occurrence of a text in another. -/
def splitAtFirst? (pattern : List α) : List α → Option (List α × List α)
  | [] => if pattern.isPrefixOf [] then some ([], []) else none
  | c :: cs =>
    if pattern.isPrefixOf (c :: cs) then some ([], (c :: cs).drop pattern.length)
    else (splitAtFirst? pattern cs).map fun (before, behind) => (c :: before, behind)

/-- What is before and what is behind the last occurrence of a text in another. -/
def splitAtLast? (pattern cs : List α) : Option (List α × List α) :=
  (splitAtFirst? pattern.reverse cs.reverse).map fun (behind, before) =>
    (before.reverse, behind.reverse)

/-- Whether a text occurs in another. -/
def occursIn (pattern cs : List α) : Bool := (splitAtFirst? pattern cs).isSome

theorem eq_append_of_splitAtFirst? [LawfulBEq α] {pattern cs before behind : List α}
    (h : splitAtFirst? pattern cs = some (before, behind)) : cs = before ++ pattern ++ behind := by
  induction cs generalizing before with
  | nil =>
    simp only [splitAtFirst?] at h
    split at h
    · obtain ⟨rfl, rfl⟩ : [] = before ∧ [] = behind := by simpa using h
      cases pattern with
      | nil => rfl
      | cons c cs => simp [List.isPrefixOf] at *
    · cases h
  | cons c cs ih =>
    simp only [splitAtFirst?] at h
    split at h
    next hp =>
      obtain ⟨rfl, rfl⟩ : [] = before ∧ (c :: cs).drop pattern.length = behind := by simpa using h
      exact (List.prefix_iff_eq_append.mp (List.isPrefixOf_iff_prefix.mp hp)).symm
    next =>
      obtain ⟨⟨b, r⟩, hb, hr⟩ := Option.map_eq_some_iff.1 h
      obtain ⟨rfl, rfl⟩ : c :: b = before ∧ r = behind := by simpa using hr
      simp [ih hb]

end Occurrences

/-! ### Parts between occurrences -/

/-- The parts of a text between at most so many occurrences of another, from the left. -/
def partsFromLeft (pattern : List Char) : Nat → List Char → List (List Char)
  | 0, cs => [cs]
  | limit + 1, cs =>
    match splitAtFirst? pattern cs with
    | some (before, behind) => before :: partsFromLeft pattern limit behind
    | none => [cs]

/-- The parts of a text between at most so many occurrences of another, from the right. -/
def partsFromRight (pattern : List Char) (limit : Nat) (cs : List Char) : List (List Char) :=
  ((partsFromLeft pattern.reverse limit cs.reverse).map List.reverse).reverse

/-- The parts of a text between all occurrences of another. -/
def splitText (s separator : String) : List String :=
  (partsFromLeft separator.toList s.length s.toList).map String.ofList

/-- The words of a text between white space, from the left; the rest behind so many is one. -/
def wordsFromLeft : Nat → List Char → List (List Char)
  | limit, cs =>
    match limit, trimStart cs with
    | _, [] => []
    | 0, cs => [cs]
    | limit + 1, cs =>
      cs.takeWhile (!isBlank ·) :: wordsFromLeft limit (cs.dropWhile (!isBlank ·))

/-- The words of a text between white space, from the right; the rest before so many is one. -/
def wordsFromRight (limit : Nat) (cs : List Char) : List (List Char) :=
  ((wordsFromLeft limit cs.reverse).map List.reverse).reverse

/-- The number of occurrences of a text in another; an empty text occurs around all characters. -/
def countOccurrences (pattern cs : List Char) : Nat :=
  if pattern = [] then cs.length + 1 else (partsFromLeft pattern cs.length cs).length - 1

/-- The text with at most so many occurrences of a text replaced. -/
def replaceOccurrences (old new : List Char) (limit : Nat) (cs : List Char) : List Char :=
  if old = [] then
    let (first, rest) := cs.splitAt (limit - 1)
    if limit = 0 then cs
    else new ++ first.flatMap (fun c => c :: new) ++ rest
  else List.intercalate new (partsFromLeft old limit cs)

theorem intercalate_partsFromLeft (pattern : List Char) (limit : Nat) (cs : List Char) :
    List.intercalate pattern (partsFromLeft pattern limit cs) = cs := by
  induction limit generalizing cs with
  | zero => simp [partsFromLeft, List.intercalate]
  | succ limit ih =>
    simp only [partsFromLeft]
    split
    next before behind h =>
      have hne : partsFromLeft pattern limit behind ≠ [] := by
        cases limit <;> simp only [partsFromLeft]
        · simp
        · split <;> simp
      have e := ih behind
      obtain ⟨p, ps, hp⟩ := List.exists_cons_of_ne_nil hne
      rw [hp] at e ⊢
      rw [eq_append_of_splitAtFirst? h, List.append_assoc, ← e]
      simp [List.intercalate]
    next => simp [List.intercalate]

/-! ### Lines -/

/-- The characters that end lines. -/
def isLineEnd (c : Char) : Bool :=
  (10 ≤ c.toNat && c.toNat ≤ 13) || (28 ≤ c.toNat && c.toNat ≤ 30) || c.toNat = 0x85 ||
    c.toNat = 0x2028 || c.toNat = 0x2029

/-- The lines of a text, with their ends or without them.  A carriage return with a line feed behind
it is one end. -/
def linesOf (keepEnds : Bool) : List Char → List (List Char)
  | [] => []
  | '\r' :: '\n' :: cs => (if keepEnds then ['\r', '\n'] else []) :: linesOf keepEnds cs
  | c :: cs =>
    if isLineEnd c then (if keepEnds then [c] else []) :: linesOf keepEnds cs
    else
      match cs, linesOf keepEnds cs with
      | [], _ => [[c]]
      | _, line :: lines => (c :: line) :: lines
      | _, [] => [[c]]

end MobileSchema
