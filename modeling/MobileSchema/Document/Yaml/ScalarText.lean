import MobileSchema.Document.Fault
import MobileSchema.Document.Yaml.Cursor
import MobileSchema.Text.Character

/-!
# The texts of scalars

A scalar is written plainly, between quotes, or as a block of lines.  Each form has its own rule for
the line breaks inside it: plain and quoted texts join lines by a space and keep the empty ones, a
literal block keeps every break, and a folded block joins lines that start at its indentation.
-/

namespace MobileSchema.Yaml

open DocumentFault

/-! ### Plain scalars -/

/-- The characters of a plain scalar up to a space, a break or an indicator.  Inside brackets more
characters are indicators. -/
def plainRun (inBrackets : Bool) : List Char → List Char
  | [] => []
  | c :: cs =>
    let next := cs.headD '\x00'
    if endsIndicator c
        || (c = ':' && (endsIndicator next || (inBrackets && ",[]\x7b\x7d".toList.contains next)))
        || (inBrackets && ",?[]\x7b\x7d".toList.contains c) then []
    else c :: plainRun inBrackets cs

/-- The breaks and spaces behind a line break inside a plain scalar; none if a marker between
documents ends it. -/
def plainBreaks : Nat → Cursor → Option (List Char) × Cursor
  | 0, c => (some [], c)
  | fuel + 1, c =>
    if c.here = ' ' then plainBreaks fuel c.next
    else if isBreak c.here then
      let (lineBreak, c) := c.lineBreak
      if c.atSeparator then (none, c)
      else
        let (breaks, c) := plainBreaks fuel c
        (breaks.map (lineBreak ++ ·), c)
    else (some [], c)

/-- What stands between two runs of a plain scalar. -/
structure PlainGap where
  /-- the text that the gap counts for, empty if the scalar ends here -/
  text : List Char
  /-- whether a line break was passed -/
  newLine : Bool
  cursor : Cursor

/-- The gap at the cursor. -/
def plainGap (c : Cursor) : PlainGap :=
  let (spaces, c) := c.span (· = ' ')
  if isBreak c.here then
    let (lineBreak, c) := c.lineBreak
    if c.atSeparator then ⟨[], true, c⟩
    else
      match plainBreaks c.rest.length c with
      | (none, c) => ⟨[], true, c⟩
      | (some breaks, c) =>
        let first := if lineBreak ≠ ['\n'] then lineBreak else if breaks = [] then [' '] else []
        ⟨first ++ breaks, true, c⟩
  else ⟨spaces, false, c⟩

/-- The rest of a plain scalar, the text of the gap before it included; also whether the line has
just begun where it ends. -/
def plainFrom (inBrackets : Bool) (indent : Int) (gap : List Char) (newLine : Bool) :
    Nat → Cursor → List Char × Bool × Cursor
  | 0, c => ([], newLine, c)
  | fuel + 1, c =>
    let run := if c.here = '#' then [] else plainRun inBrackets c.rest
    if run = [] then ([], newLine, c)
    else
      let between := plainGap (c.advance run.length)
      let next := between.cursor
      if between.text = [] || next.here = '#' || (!inBrackets && next.column < indent) then
        (gap ++ run, between.newLine, next)
      else
        let (text, newLine, c) :=
          plainFrom inBrackets indent between.text between.newLine fuel next
        (gap ++ run ++ text, newLine, c)

/-! ### Quoted scalars -/

/-- The character that a letter behind a backslash stands for. -/
def escapeOf? (c : Char) : Option Char :=
  [('0', '\x00'), ('a', '\x07'), ('b', '\x08'), ('t', '\t'), ('\t', '\t'), ('n', '\n'),
    ('v', '\x0b'), ('f', '\x0c'), ('r', '\r'), ('e', '\x1b'), (' ', ' '), ('"', '"'), ('\\', '\\'),
    ('/', '/'), ('N', '\x85'), ('_', '\xa0'), ('L', '\u2028'), ('P', '\u2029')].lookup c

/-- The number of hexadecimal digits that a letter behind a backslash announces. -/
def escapeWidth? (c : Char) : Option Nat :=
  [('x', 2), ('u', 4), ('U', 8)].lookup c

/-- The number of a character, which may be half of a surrogate pair. -/
def checkCharacter (n : Nat) : Except DocumentFault Nat :=
  if 0x80000000 ≤ n then .error characterTooLarge
  else if 0x110000 ≤ n then .error characterOutOfRange
  else .ok n

/-- The breaks of the empty lines inside a quoted scalar, the blanks around them left out. -/
def quotedBreaks : Nat → Cursor → Except DocumentFault (List Char × Cursor)
  | 0, _ => .error malformed
  | fuel + 1, c =>
    if c.atSeparator then .error malformed
    else
      let c := c.skip fun ch => ch = ' ' || ch = '\t'
      if isBreak c.here then do
        let (lineBreak, c) := c.lineBreak
        let (breaks, c) ← quotedBreaks fuel c
        return (lineBreak ++ breaks, c)
      else return ([], c)

/-- Blanks and breaks inside a quoted scalar. -/
def quotedGap (c : Cursor) : Except DocumentFault (List Char × Cursor) :=
  let (blanks, c) := c.span fun ch => ch = ' ' || ch = '\t'
  if c.here = '\x00' then .error malformed
  else if isBreak c.here then do
    let (lineBreak, c) := c.lineBreak
    let (breaks, c) ← quotedBreaks (c.rest.length + 1) c
    let first := if lineBreak ≠ ['\n'] then lineBreak else if breaks = [] then [' '] else []
    return (first ++ breaks, c)
  else return (blanks, c)

/-- What a backslash in a double-quoted scalar stands for; the cursor is behind the backslash. -/
def quotedEscape (c : Cursor) : Except DocumentFault (List Nat × Cursor) :=
  match escapeOf? c.here, escapeWidth? c.here with
  | some ch, _ => .ok ([ch.toNat], c.next)
  | none, some width =>
    let digits := c.next.rest.take width
    match digits.mapM hexValue? with
    | some values =>
      if values.length < width then .error malformed
      else (checkCharacter (ofDigits 16 values)).map fun n => ([n], c.advance (width + 1))
    | none => .error malformed
  | none, none =>
    if isBreak c.here then do
      let (_, c) := c.lineBreak
      let (breaks, c) ← quotedBreaks (c.rest.length + 1) c
      return (codesOf breaks, c)
    else .error malformed

/-- The rest of a quoted scalar, its closing quote included. -/
def quotedFrom (quote : Char) : Nat → Cursor → Except DocumentFault (List Nat × Cursor)
  | 0, _ => .error malformed
  | fuel + 1, c =>
    let plainChar (ch : Char) : Bool :=
      !(ch = '\'' || ch = '"' || ch = '\\' || endsIndicator ch)
    let (run, c) := c.span plainChar
    let continueWith (text : List Nat) (c : Cursor) : Except DocumentFault (List Nat × Cursor) :=
      (quotedFrom quote fuel c).map fun (more, c) => (codesOf run ++ text ++ more, c)
    if c.here = quote then
      if quote = '\'' && c.peek 1 = '\'' then continueWith (codesOf ['\'']) (c.advance 2)
      else .ok (codesOf run, c.next)
    else if c.here = '\\' && quote = '"' then do
      let (text, c) ← quotedEscape c.next
      continueWith text c
    else if c.here = '\'' || c.here = '"' || c.here = '\\' then
      continueWith (codesOf [c.here]) c.next
    else do
      let (text, c) ← quotedGap c
      continueWith (codesOf text) c

/-- A quoted scalar by the numbers of its characters, from its opening quote on. -/
def quotedScalar (c : Cursor) : Except DocumentFault (List Nat × Cursor) :=
  quotedFrom c.here (2 * c.rest.length + 1) c.next

/-! ### Block scalars -/

/-- What becomes of the line breaks at the end of a block. -/
inductive Chomping
  | strip | clip | keep
  deriving DecidableEq, Repr

/-- The chomping that a sign in a block's header asks for. -/
def chompingOf? : Char → Option Chomping
  | '+' => some .keep
  | '-' => some .strip
  | _ => none

/-- The digit of a block's header, if one stands at the cursor. -/
def indentDigit (c : Cursor) : Except DocumentFault (Option Nat × Cursor) :=
  if c.here.isDigit then
    if c.here = '0' then .error malformed
    else .ok (some (c.here.toNat - '0'.toNat), c.next)
  else .ok (none, c)

/-- The header of a block: a sign and a digit in either order, and nothing else on the line but a
comment. -/
def blockHeader (c : Cursor) : Except DocumentFault (Chomping × Option Nat × Cursor) := do
  let (chomping, digit, c) ← match chompingOf? c.here with
    | some chomping => do
      let (digit, c) ← indentDigit c.next
      pure (chomping, digit, c)
    | none => do
      let (digit, c) ← indentDigit c
      match digit, chompingOf? c.here with
      | some _, some chomping => pure (chomping, digit, c.next)
      | _, _ => pure (Chomping.clip, digit, c)
  if !endsWord c.here then throw malformed
  let c := c.skipSpaces.skipComment
  if !endsLine c.here then throw malformed
  return (chomping, digit, c.lineBreak.2)

/-- The breaks of the empty lines before a block's first line, and its indentation so far. -/
def blockIndentation : Nat → Nat → Cursor → List Char × Nat × Cursor
  | 0, deepest, c => ([], deepest, c)
  | fuel + 1, deepest, c =>
    if c.here = ' ' then blockIndentation fuel (max deepest c.next.column) c.next
    else if isBreak c.here then
      let (lineBreak, c) := c.lineBreak
      let (breaks, deepest, c) := blockIndentation fuel deepest c
      (lineBreak ++ breaks, deepest, c)
    else ([], deepest, c)

/-- The cursor behind the spaces of an indentation. -/
def skipIndentation (indent : Nat) (c : Cursor) : Cursor :=
  let spaces := (c.rest.takeWhile (· = ' ')).length
  c.advance (min spaces (indent - c.column))

/-- The breaks of empty lines inside a block. -/
def blockBreaks (indent : Nat) : Nat → Cursor → List Char × Cursor
  | 0, c => ([], c)
  | fuel + 1, c =>
    let c := skipIndentation indent c
    if isBreak c.here then
      let (lineBreak, c) := c.lineBreak
      let (breaks, c) := blockBreaks indent fuel c
      (lineBreak ++ breaks, c)
    else ([], c)

/-- Whether the cursor stands on a line of a block. -/
def onBlockLine (indent : Nat) (c : Cursor) : Bool := c.column = indent && c.here ≠ '\x00'

/-- The lines of a block from the cursor on, joined; then the last line break and the breaks behind
it, which the chomping decides on. -/
def blockLines (folded : Bool) (indent : Nat) :
    Nat → Cursor → List Char × List Char × List Char × Cursor
  | 0, c => ([], [], [], c)
  | fuel + 1, c =>
    let startsBlank := c.here = ' ' || c.here = '\t'
    let (line, c) := c.span (!endsLine ·)
    let (lineBreak, c) := c.lineBreak
    let (breaks, c) := blockBreaks indent (c.rest.length + 1) c
    if onBlockLine indent c then
      let joint :=
        if folded && lineBreak = ['\n'] && !startsBlank && !(c.here = ' ' || c.here = '\t') then
          if breaks = [] then [' '] else []
        else lineBreak
      let (text, tail) := blockLines folded indent fuel c
      (line ++ joint ++ breaks ++ text, tail)
    else (line, lineBreak, breaks, c)

/-- A block scalar, from its indicator on, inside a collection of indentation `outer`. -/
def blockScalar (folded : Bool) (outer : Int) (c : Cursor) :
    Except DocumentFault (List Char × Cursor) := do
  let (chomping, digit, c) ← blockHeader c.next
  let least := max 1 (outer + 1).toNat
  let (indent, leading, c) := match digit with
    | none =>
      let (breaks, deepest, c) := blockIndentation (c.rest.length + 1) 0 c
      (max least deepest, breaks, c)
    | some digit =>
      let indent := least + digit - 1
      let (breaks, c) := blockBreaks indent (c.rest.length + 1) c
      (indent, breaks, c)
  if onBlockLine indent c then
    let (text, lineBreak, breaks, c) := blockLines folded indent (c.rest.length + 1) c
    let text := leading ++ text
    return match chomping with
      | .strip => (text, c)
      | .clip => (text ++ lineBreak, c)
      | .keep => (text ++ lineBreak ++ breaks, c)
  else
    return (if chomping = .keep then leading else [], c)

end MobileSchema.Yaml
