/-!
# Patterns

A pattern matches some beginnings of a text.  It is kept as the rests that it can leave, the longest
match first, so that patterns can be put one behind the other and tried in turn.
-/

namespace MobileSchema

/-- A pattern, as the rests of a text behind the beginnings that it matches. -/
abbrev Pattern := List Char → List (List Char)

namespace Pattern

/-- Some character of a sort. -/
def char (property : Char → Bool) : Pattern
  | [] => []
  | c :: cs => if property c then [cs] else []

/-- A text, without regard to the case of its letters from `a` to `z`. -/
def word (s : String) : Pattern := fun cs =>
  let n := s.length
  if (cs.take n).map Char.toLower = s.toList then [cs.drop n] else []

/-- One pattern behind another. -/
def followedBy (p q : Pattern) : Pattern := fun cs => ((p cs).flatMap q).eraseDups

/-- Patterns one behind another. -/
def inTurn (ps : List Pattern) : Pattern := ps.foldr followedBy fun cs => [cs]

/-- One of some patterns. -/
def oneOf (ps : List Pattern) : Pattern := fun cs => (ps.flatMap fun p => p cs).eraseDups

/-- A pattern, or nothing. -/
def optional (p : Pattern) : Pattern := fun cs => p cs ++ [cs]

/-- A pattern from `least` to `most` times. -/
def times (p : Pattern) : Nat → Nat → Pattern
  | _, 0 => fun cs => [cs]
  | 0, most + 1 => fun cs => ((p cs).flatMap (times p 0 most)).eraseDups ++ [cs]
  | least + 1, most + 1 => followedBy p (times p least most)

/-- A pattern once or more often. -/
def many (p : Pattern) : Pattern := fun cs => times p 1 cs.length cs

/-- Whether a pattern matches a text as a whole; a line feed at its end does not count. -/
def matchesAll (p : Pattern) (cs : List Char) : Bool :=
  (p cs).any fun rest => rest = [] || rest = ['\n']

theorem matchesAll_word_append (s : String) (h : s.toList.map Char.toLower = s.toList) :
    (word s).matchesAll s.toList = true := by
  have e : List.take s.length s.toList = s.toList := by simp [← String.length_toList]
  have d : List.drop s.length s.toList = [] := by simp [← String.length_toList]
  simp [matchesAll, word, e, d, h]

end Pattern

end MobileSchema
