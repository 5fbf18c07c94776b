import Mathlib.Data.String.Basic

/-!
# Lines

A source is put together from lines, and its text is that of the lines one after another.
-/

namespace MobileSchema

/-- The text of lines, each with its end. -/
def textOfLines (lines : List String) : String := String.join (lines.map (· ++ "\n"))

@[simp] theorem textOfLines_nil : textOfLines [] = "" := rfl

@[simp] theorem textOfLines_cons (line : String) (lines : List String) :
    textOfLines (line :: lines) = line ++ "\n" ++ textOfLines lines := by
  simp [textOfLines]

/-- The text of lines behind each other is their texts behind each other. -/
@[simp] theorem textOfLines_append (lines more : List String) :
    textOfLines (lines ++ more) = textOfLines lines ++ textOfLines more := by
  simp [textOfLines]

/-- Lines that are made of some things one by one make a text that is put together from theirs. -/
theorem textOfLines_flatMap {α : Type} (xs : List α) (lines : α → List String) :
    textOfLines (xs.flatMap lines) = String.join (xs.map fun x => textOfLines (lines x)) := by
  induction xs with
  | nil => rfl
  | cons x xs ih => simp [ih]

/-- Lines that are written under a condition.  Before them, and behind the place where they would
be, there may be empty lines. -/
def linesIf (gap : List String) (condition : Bool) (lines : List String) : List String :=
  (if condition then gap ++ lines else []) ++ gap

/-- What a condition lets through, and the gap that is there in any case. -/
theorem textOfLines_linesIf (gap lines : List String) (condition : Bool) :
    textOfLines (linesIf gap condition lines) =
      (if condition then textOfLines (gap ++ lines) else "") ++ textOfLines gap := by
  cases condition <;> simp [linesIf, String.append_assoc]

end MobileSchema
