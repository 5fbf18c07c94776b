/-!
# A place in a text

YAML gives meaning to columns and lines, so reading keeps count of them.  The end of a text is seen
as the character zero, which no text to be read contains.
-/

namespace MobileSchema.Yaml

/-- A line break. -/
def isBreak (c : Char) : Bool :=
  c = '\r' || c = '\n' || c = '\x85' || c = '\u2028' || c = '\u2029'

/-- A line break or the end. -/
def endsLine (c : Char) : Bool := c = '\x00' || isBreak c

/-- A space, a line break or the end. -/
def endsWord (c : Char) : Bool := c = ' ' || endsLine c

/-- A space, a tab, a line break or the end. -/
def endsIndicator (c : Char) : Bool := c = '\t' || endsWord c

/-- An ASCII letter, a digit, a hyphen or an underscore. -/
def isNameChar (c : Char) : Bool := c.isAlphanum || c = '-' || c = '_'

/-- What is left of a text, and how far it has been read. -/
structure Cursor where
  rest : List Char
  index : Nat := 0
  line : Nat := 0
  column : Nat := 0

namespace Cursor

/-- The character `k` places ahead. -/
def peek (c : Cursor) (k : Nat) : Char := (c.rest.drop k).headD '\x00'

/-- The next character. -/
def here (c : Cursor) : Char := c.rest.headD '\x00'

/-- The cursor behind the next character.  A byte order mark takes no column. -/
def next (c : Cursor) : Cursor :=
  match c.rest with
  | [] => c
  | ch :: rest =>
    if isBreak ch && !(ch = '\r' && rest.head? = some '\n') then
      { rest, index := c.index + 1, line := c.line + 1, column := 0 }
    else
      { rest, index := c.index + 1, line := c.line,
        column := if ch = '\uFEFF' then c.column else c.column + 1 }

/-- The cursor `n` characters ahead. -/
def advance : Nat → Cursor → Cursor
  | 0, c => c
  | n + 1, c => advance n c.next

/-- The run of characters with a property at the cursor, and the cursor behind it. -/
def span (p : Char → Bool) (c : Cursor) : List Char × Cursor :=
  let run := c.rest.takeWhile p
  (run, c.advance run.length)

/-- The cursor behind the characters with a property. -/
def skip (p : Char → Bool) (c : Cursor) : Cursor := (c.span p).2

/-- The cursor behind the spaces. -/
def skipSpaces (c : Cursor) : Cursor := c.skip (· = ' ')

/-- The cursor at the end of the line, if a comment starts here. -/
def skipComment (c : Cursor) : Cursor :=
  if c.here = '#' then c.skip (!endsLine ·) else c

/-- The line break at the cursor, as it counts in a text, and the cursor behind it. -/
def lineBreak (c : Cursor) : List Char × Cursor :=
  match c.rest with
  | '\r' :: '\n' :: _ => (['\n'], c.next.next)
  | '\r' :: _ | '\n' :: _ | '\x85' :: _ => (['\n'], c.next)
  | '\u2028' :: _ => (['\u2028'], c.next)
  | '\u2029' :: _ => (['\u2029'], c.next)
  | _ => ([], c)

/-- Whether three equal characters stand at the cursor and end a word. -/
def atMarker (mark : Char) (c : Cursor) : Bool :=
  [mark, mark, mark].isPrefixOf c.rest && endsIndicator (c.peek 3)

/-- Whether a marker between documents stands at the cursor. -/
def atSeparator (c : Cursor) : Bool := c.atMarker '-' || c.atMarker '.'

end Cursor

end MobileSchema.Yaml
