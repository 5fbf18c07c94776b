import MobileSchema.Template.Piece
import MobileSchema.Template.Tree

/-!
# Reading from lexemes

What reading asks of the lexemes of a tag: whether they go on with a sign or a name, and what the
rest is.  Where they do not go on as they should, the fault is that of the lexeme there.
-/

namespace MobileSchema.Template

/-- A part of reading. -/
abbrev Reading := Except ReadFault

/-- The fault of lexemes that do not go on as they should. -/
def faultAt : List Lexeme → ReadFault
  | .broken fault :: _ => fault
  | _ => .malformed

/-- The refusal of lexemes that do not go on as they should. -/
def unexpected {α : Type} (cs : List Lexeme) : Reading α := .error (faultAt cs)

/-- The rest behind a sign. -/
def behindSign (s : String) : List Lexeme → Option (List Lexeme)
  | .sign t :: rest => if t = s then some rest else none
  | _ => none

/-- The rest behind a name. -/
def behindName (s : String) : List Lexeme → Option (List Lexeme)
  | .name t :: rest => if t = s then some rest else none
  | _ => none

/-- Whether lexemes go on with a sign. -/
def startsWithSign (s : String) (cs : List Lexeme) : Bool := (behindSign s cs).isSome

/-- Whether lexemes go on with a name. -/
def startsWithName (s : String) (cs : List Lexeme) : Bool := (behindName s cs).isSome

/-- The rest behind a sign that has to stand there. -/
def expectSign (s : String) (cs : List Lexeme) : Reading (List Lexeme) :=
  (behindSign s cs).elim (unexpected cs) .ok

/-- The rest behind a name that has to stand there. -/
def expectName (s : String) (cs : List Lexeme) : Reading (List Lexeme) :=
  (behindName s cs).elim (unexpected cs) .ok

/-- Any name, and the rest behind it. -/
def anyName : List Lexeme → Reading (String × List Lexeme)
  | .name s :: rest => .ok (s, rest)
  | cs => unexpected cs

/-- Checks that nothing is left. -/
def expectEnd (cs : List Lexeme) : Reading Unit := if cs = [] then .ok () else unexpected cs

/-- Texts that stand next to each other, as one text. -/
def adjacentTexts : List Lexeme → List Nat × List Lexeme
  | .text codes :: rest =>
    let (more, rest) := adjacentTexts rest
    (codes ++ more, rest)
  | rest => ([], rest)

/-- A name of parts with points between them: what is behind its first part, and the rest. -/
def dottedName : List Lexeme → Reading (String × List Lexeme)
  | .sign "." :: .name s :: rest =>
    (dottedName rest).map fun (more, rest) => ("." ++ s ++ more, rest)
  | .sign "." :: rest => unexpected rest
  | rest => .ok ("", rest)

/-- The line of the first of some lexemes, which a tag with lexemes on these lines ends with. -/
def lineOf (lines : List Nat) (cs : List Lexeme) : Nat :=
  (lines[lines.length - cs.length]?).getD (lines.getLast?.getD 0)

/-- The depth that suffices to read lexemes. -/
def depthFor (cs : List Lexeme) : Nat := 32 * (cs.length + 1)

namespace Inside

/-- The inside of a tag behind some lexemes. -/
def behind (inside : Inside) (rest : List Lexeme) : Inside := { inside with lexemes := rest }

/-- The inside of a tag that opens a block, less a colon at its end. -/
def withoutColon (inside : Inside) : Inside :=
  if inside.lexemes.getLast? = some (.sign ":") then
    ⟨inside.lexemes.dropLast, inside.lines.dropLast⟩
  else inside

end Inside

end MobileSchema.Template
