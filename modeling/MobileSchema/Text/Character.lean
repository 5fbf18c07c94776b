/-!
# Characters

What is known of characters by their numbers.  A character class of a standard is data: a list of
closed ranges of code points in increasing order.  White space and decimal digits are such classes
and stand here; the larger ones have modules of their own.

Escapes name characters by number, and such a number can be half of a surrogate pair, which is no
character.  A text with such halves is kept as the numbers of its characters.
-/

namespace MobileSchema

/-! ### Numbers of characters -/

/-- The numbers of characters. -/
def codesOf (cs : List Char) : List Nat := cs.map Char.toNat

/-- The character of a number, if there is one. -/
def charOfCode? (n : Nat) : Option Char := if n.isValidChar then some (Char.ofNat n) else none

/-- Whether a number is half of a surrogate pair. -/
def isHalf (n : Nat) : Bool := 0xD800 ≤ n && n < 0xE000

/-- The text of numbers that are all characters. -/
def textOfCodes? (codes : List Nat) : Option String := (codes.mapM charOfCode?).map String.ofList

theorem charOfCode?_toNat (c : Char) : charOfCode? c.toNat = some c := by
  simp [charOfCode?, show c.toNat.isValidChar from c.valid]

theorem toNat_of_charOfCode? {n : Nat} {c : Char} (h : charOfCode? n = some c) : c.toNat = n := by
  rw [charOfCode?] at h
  split at h
  · rename_i hvalid
    rw [← Option.some.inj h, Char.ofNat, dif_pos hvalid]
    exact UInt32.toNat_ofNatLT ..
  · cases h

/-- The characters of a text are found again by their numbers. -/
theorem textOfCodes?_codesOf (cs : List Char) :
    textOfCodes? (codesOf cs) = some (String.ofList cs) := by
  have : (codesOf cs).mapM charOfCode? = some cs := by
    induction cs with
    | nil => rfl
    | cons c cs ih =>
      rw [codesOf, List.map_cons, List.mapM_cons, charOfCode?_toNat]
      simp only [codesOf] at ih
      simp [ih]
  simp [textOfCodes?, this]

theorem eq_codesOf_of_mapM {codes : List Nat} {cs : List Char}
    (h : codes.mapM charOfCode? = some cs) : codes = codesOf cs := by
  induction codes generalizing cs with
  | nil =>
    cases h
    rfl
  | cons n codes ih =>
    rw [List.mapM_cons] at h
    obtain ⟨c, hc, h⟩ := Option.bind_eq_some_iff.1 h
    obtain ⟨more, hmore, h⟩ := Option.bind_eq_some_iff.1 h
    cases h
    rw [codesOf, List.map_cons, toNat_of_charOfCode? hc, ih hmore]
    rfl

/-- Numbers come to a text just if they are the numbers of its characters. -/
theorem textOfCodes?_eq_some_iff {codes : List Nat} {s : String} :
    textOfCodes? codes = some s ↔ codes = codesOf s.toList := by
  constructor
  · intro h
    obtain ⟨cs, hcs, rfl⟩ := Option.map_eq_some_iff.1 h
    rw [String.toList_ofList]
    exact eq_codesOf_of_mapM hcs
  · rintro rfl
    rw [textOfCodes?_codesOf, String.ofList_toList]

/-! ### Ranges of code points -/

/-- A closed range of code points, given by its first and its last member. -/
abbrev CodeRange := Nat × Nat

/-- Whether the code point `n` lies in one of the ranges. -/
def CodeRange.covers (ranges : List CodeRange) (n : Nat) : Bool :=
  ranges.any fun r => r.1 ≤ n && n ≤ r.2

/-! ### White space -/

/-- The ranges of white space. -/
def blankRanges : List CodeRange :=
  [(9, 13), (28, 32), (133, 133), (160, 160), (5760, 5760), (8192, 8202), (8232, 8233),
   (8239, 8239), (8287, 8287), (12288, 12288)]

/-- Whether a character is white space in any script. -/
def isBlank (c : Char) : Bool := CodeRange.covers blankRanges c.toNat

/-- The text without the white space at its start. -/
def trimStart (cs : List Char) : List Char := cs.dropWhile isBlank

/-- The text without the white space at its end. -/
def trimEnd (cs : List Char) : List Char := (cs.reverse.dropWhile isBlank).reverse

/-- The text without the white space at its two ends. -/
def trimBlank (s : String) : String := String.ofList (trimEnd (trimStart s.toList))

/-! ### Decimal digits -/

/-- The code point of each script's digit zero. -/
def digitZeros : List Nat :=
  [48, 1632, 1776, 1984, 2406, 2534, 2662, 2790, 2918, 3046, 3174, 3302, 3430, 3558, 3664, 3792,
   3872, 4160, 4240, 6112, 6160, 6470, 6608, 6784, 6800, 6992, 7088, 7232, 7248, 42528, 43216,
   43264, 43472, 43504, 43600, 44016, 65296, 66720, 68912, 69734, 69872, 69942, 70096, 70384,
   70736, 70864, 71248, 71360, 71472, 71904, 72016, 72784, 73040, 73120, 92768, 92864, 93008,
   120782, 120792, 120802, 120812, 120822, 123200, 123632, 125264, 130032]

/-- Whether a character is a decimal digit of some script. -/
def isDigit (c : Char) : Bool :=
  digitZeros.any fun z => z ≤ c.toNat && c.toNat < z + 10

/-- The value of a decimal digit of any script. -/
def digitValue? (c : Char) : Option Nat :=
  (digitZeros.find? fun z => z ≤ c.toNat && c.toNat < z + 10).map fun z => c.toNat - z

end MobileSchema
