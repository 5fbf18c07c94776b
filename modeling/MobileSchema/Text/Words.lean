import MobileSchema.Text.Character

/-!
# The words of an identifier

A name is read as a list of words: runs of ASCII letters or of decimal digits.  A capital starts a
word together with the lower-case letters after it; a run of capitals is one word (an acronym), less
its last letter when that letter starts such a word.  Every other character separates words and
belongs to none.
-/

namespace MobileSchema

/-- Whether a text starts with a lower-case letter. -/
def startsLower : List Char → Bool
  | [] => false
  | c :: _ => c.isLower

/-- The leading run of capitals, up to a capital that a lower-case letter follows. -/
def acronym : List Char → List Char
  | [] => []
  | c :: cs => if c.isUpper && !startsLower cs then c :: acronym cs else []

/-- The word at the start of a text, empty if its first character is in no word. -/
def leadingWord : List Char → List Char
  | [] => []
  | c :: cs =>
    if c.isUpper then
      if startsLower cs then c :: cs.takeWhile Char.isLower else acronym (c :: cs)
    else if c.isLower then (c :: cs).takeWhile Char.isLower
    else (c :: cs).takeWhile isDigit

/-- The words of a text, in order. -/
def words : List Char → List (List Char)
  | [] => []
  | c :: cs =>
    match leadingWord (c :: cs) with
    | [] => words cs
    | w :: ws => (w :: ws) :: words (cs.drop ws.length)
termination_by cs => cs.length
decreasing_by
  · simp
  · simp only [List.length_drop, List.length_cons]; omega

end MobileSchema
