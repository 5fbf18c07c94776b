import MobileSchema.Text.Character
import MobileSchema.Text.Printable

/-!
# Quoted text

A text between quotation marks, as messages show it.  Apostrophes enclose the text, unless it
holds an apostrophe and no double quote.  The enclosing mark and the backslash are written behind
a backslash, line feed, carriage return and tab by a letter, and every other character that is not
printable by its number in two, four or eight hexadecimal digits.
-/

namespace MobileSchema

/-- The last `width` hexadecimal digits of a number. -/
def hexDigits : Nat → Nat → List Char
  | 0, _ => []
  | width + 1, n => hexDigits width (n / 16) ++ [Nat.digitChar (n % 16)]

/-- A character by its number, in the shortest of the three widths that holds it. -/
def numericEscape (c : Char) : List Char :=
  if c.toNat < 256 then '\\' :: 'x' :: hexDigits 2 c.toNat
  else if c.toNat < 65536 then '\\' :: 'u' :: hexDigits 4 c.toNat
  else '\\' :: 'U' :: hexDigits 8 c.toNat

/-- A character inside the quotation mark `mark`. -/
def quotedChar (mark c : Char) : List Char :=
  if c = mark ∨ c = '\\' then ['\\', c]
  else if c = '\n' then ['\\', 'n']
  else if c = '\r' then ['\\', 'r']
  else if c = '\t' then ['\\', 't']
  else if isPrintable c then [c]
  else numericEscape c

/-- The mark that encloses a text. -/
def quotationMark (cs : List Char) : Char :=
  if cs.contains '\'' && !cs.contains '"' then '"' else '\''

/-- A text in quotation marks. -/
def quotedChars (cs : List Char) : List Char :=
  let mark := quotationMark cs
  mark :: cs.flatMap (quotedChar mark) ++ [mark]

/-- A text in quotation marks. -/
def quoted (s : String) : String := String.ofList (quotedChars s.toList)

/-- A character by its number inside the quotation mark `mark`.  Half of a surrogate pair is not
printable. -/
def quotedCode (mark : Char) (n : Nat) : List Char :=
  match charOfCode? n with
  | some c => quotedChar mark c
  | none => '\\' :: 'u' :: hexDigits 4 n

/-- A text in quotation marks, given by the numbers of its characters. -/
def quotedCodes (codes : List Nat) : String :=
  let mark := quotationMark (codes.filterMap charOfCode?)
  String.ofList (mark :: codes.flatMap (quotedCode mark) ++ [mark])

/-- A text with its characters that are not among the first 128 by their numbers. -/
def numbered (s : String) : String :=
  String.ofList (s.toList.flatMap fun c => if c.toNat < 128 then [c] else numericEscape c)

/-- A text in quotation marks, or the word for none. -/
def quotedOrNone : Option String → String
  | some s => quoted s
  | none => "None"

end MobileSchema
