import MobileSchema.Text.Search

/-!
# Laying out texts

Texts that are filled up to a width, tabulators that are replaced by spaces, words that are put into
lines, and lines that end in different ways: texts from different systems end their lines by a line
feed, a carriage return, or both.
-/

namespace MobileSchema

/-! ### Filling up -/

/-- The text with so many characters before it and behind it. -/
def padded (before behind : Nat) (fill : Char) (cs : List Char) : List Char :=
  List.replicate before fill ++ cs ++ List.replicate behind fill

/-- The text at the left of a width. -/
def leftJustified (width : Nat) (fill : Char) (cs : List Char) : List Char :=
  padded 0 (width - cs.length) fill cs

/-- The text at the right of a width. -/
def rightJustified (width : Nat) (fill : Char) (cs : List Char) : List Char :=
  padded (width - cs.length) 0 fill cs

/-- The text in the middle of a width; an odd space more is before it if the width is odd. -/
def centered (width : Nat) (fill : Char) (cs : List Char) : List Char :=
  let space := width - cs.length
  let before := space / 2 + (if space % 2 = 1 && width % 2 = 1 then 1 else 0)
  padded before (space - before) fill cs

/-- The text filled up with zeros, behind a sign. -/
def zeroFilled (width : Nat) (cs : List Char) : List Char :=
  let zeros := List.replicate (width - cs.length) '0'
  match cs with
  | c :: rest => if c = '+' || c = '-' then c :: zeros ++ rest else zeros ++ cs
  | [] => zeros

theorem length_leftJustified (width : Nat) (fill : Char) (cs : List Char) :
    (leftJustified width fill cs).length = max width cs.length := by
  simp [leftJustified, padded]
  omega

theorem length_centered (width : Nat) (fill : Char) (cs : List Char) :
    (centered width fill cs).length = max width cs.length := by
  simp only [centered, padded, List.length_append, List.length_replicate]
  split <;> simp at * <;> omega

/-! ### Tabulators -/

/-- The text with spaces for tabulators up to the next multiple of a size; `column` is the column
where it starts. -/
def withoutTabs (size column : Nat) : List Char → List Char
  | [] => []
  | c :: cs =>
    if c = '\t' then
      let spaces := if size = 0 then 0 else size - column % size
      List.replicate spaces ' ' ++ withoutTabs size (column + spaces) cs
    else if c = '\n' || c = '\r' then c :: withoutTabs size 0 cs
    else c :: withoutTabs size (column + 1) cs

/-! ### Line ends -/

/-- The text with every line ended by a line feed alone. -/
def unifyLineEnds : List Char → List Char
  | [] => []
  | '\r' :: '\n' :: cs => '\n' :: unifyLineEnds cs
  | '\r' :: cs => '\n' :: unifyLineEnds cs
  | c :: cs => c :: unifyLineEnds cs

theorem not_mem_unifyLineEnds (cs : List Char) : '\r' ∉ unifyLineEnds cs := by
  fun_induction unifyLineEnds cs with
  | case1 => simp
  | case2 cs ih => simpa using ih
  | case3 cs _ ih => simpa using ih
  | case4 c cs _ hc ih =>
    simp only [List.mem_cons, not_or]
    exact ⟨fun h => hc h.symm, ih⟩

/-- The text of a file, if its bytes are one. -/
def textOfBytes? (bytes : ByteArray) : Option String :=
  (String.fromUTF8? bytes).map fun s => String.ofList (unifyLineEnds s.toList)

end MobileSchema
