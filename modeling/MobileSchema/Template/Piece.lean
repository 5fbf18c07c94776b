import MobileSchema.Template.Lexeme

/-!
# The pieces of a template

A template is text with tags in it: outputs, statements and comments.  This module cuts it into
pieces and decides which white space around the tags belongs to the text.

* A hyphen inside the edge of a tag takes away all white space on that side.
* With `trimBlocks` a statement or comment takes the line break right behind it with it.
* With `lstripBlocks` it takes the white space before it on its line, if nothing else stands there;
  a plus sign inside its left edge keeps that white space.

Inside a tag, a bracket that is open keeps the tag from ending.
-/

namespace MobileSchema.Template

/-- How the white space around tags is treated. -/
structure Whitespace where
  trimBlocks : Bool
  lstripBlocks : Bool
  keepTrailingNewline : Bool
  deriving DecidableEq, Repr

/-- What is inside a tag: its lexemes, and the line of each. -/
structure Inside where
  lexemes : List Lexeme
  lines : List Nat
  deriving DecidableEq, Repr

/-- A piece of a template. -/
inductive Piece
  | text (s : String)
  | output (inside : Inside)
  | statement (inside : Inside)
  deriving DecidableEq, Repr

/-- The bracket that closes an opening one. -/
def closerOf? : Lexeme → Option String
  | .sign "(" => some ")"
  | .sign "[" => some "]"
  | .sign "\x7b" => some "\x7d"
  | _ => none

/-- The brackets that are open behind a lexeme, innermost first; none if it closes the wrong one. -/
def openBehind (brackets : List String) (lexeme : Lexeme) : Option (List String) :=
  match closerOf? lexeme, lexeme with
  | some closer, _ => some (closer :: brackets)
  | none, .sign s =>
    if s = ")" || s = "]" || s = "\x7d" then
      match brackets with
      | closer :: rest => if closer = s then some rest else none
      | [] => none
    else some brackets
  | none, _ => some brackets

/-- The end of a tag: whether a line begins behind it, and the rest. -/
abbrev TagEnd := Bool × List Char

/-- The lexemes of a tag with the texts that begin with them, up to the end that `ending`
recognises.  What is broken ends them too, and then there is no end. -/
def lexemes (ending : List Char → Option TagEnd) :
    Nat → List String → Bool → List Char → List (Lexeme × List Char) × Option TagEnd
  | 0, _, _, _ => ([], none)
  | fuel + 1, brackets, behindPoint, cs =>
    match if brackets = [] then ending cs else none with
    | some tagEnd => ([], some tagEnd)
    | none =>
      match cs with
      | [] => ([(.broken .malformed, [])], none)
      | c :: rest =>
        if isBlank c then lexemes ending fuel brackets false rest
        else
          match lexeme? behindPoint (c :: rest) with
          | none => ([(.broken .malformed, cs)], none)
          | some (.broken fault, _) => ([(.broken fault, cs)], none)
          | some (lexeme, rest) =>
            match openBehind brackets lexeme with
            | none => ([(.broken .malformed, cs)], none)
            | some brackets =>
              let (more, tagEnd) := lexemes ending fuel brackets (lexeme = .sign ".") rest
              ((lexeme, cs) :: more, tagEnd)

/-- The inside of a tag in a text of so many lines, and the end of the tag, if there is one. -/
def insideOf (lineCount : Nat) (ending : List Char → Option TagEnd) (cs : List Char) :
    Inside × Option TagEnd :=
  let (found, tagEnd) := lexemes ending (cs.length + 1) [] false cs
  (⟨found.map (·.1), found.map fun l => lineCount - l.2.count '\n'⟩, tagEnd)

/-! ### The edges of tags -/

/-- The sign inside the left edge of a tag. -/
inductive EdgeSign
  | none | strip | keep
  deriving DecidableEq, Repr

/-- The sign inside the left edge of a tag, and the rest. -/
def edgeSign : List Char → EdgeSign × List Char
  | '-' :: cs => (.strip, cs)
  | '+' :: cs => (.keep, cs)
  | cs => (.none, cs)

/-- The rest behind white space, as the end of a tag. -/
def behindBlanks (cs : List Char) : TagEnd :=
  ((cs.takeWhile isBlank).getLast? = some '\n', cs.dropWhile isBlank)

/-- The rest behind a line break that is to be trimmed, as the end of a tag. -/
def behindBreak (rules : Whitespace) : List Char → TagEnd
  | '\n' :: cs => if rules.trimBlocks then (true, cs) else (false, '\n' :: cs)
  | cs => (false, cs)

/-- The end of an output. -/
def outputEnd : List Char → Option TagEnd
  | '-' :: '\x7d' :: '\x7d' :: cs => some (behindBlanks cs)
  | '\x7d' :: '\x7d' :: cs => some (false, cs)
  | _ => none

/-- The end of a statement. -/
def statementEnd (rules : Whitespace) : List Char → Option TagEnd
  | '+' :: '%' :: '\x7d' :: cs => some (false, cs)
  | '-' :: '%' :: '\x7d' :: cs => some (behindBlanks cs)
  | '%' :: '\x7d' :: cs => some (behindBreak rules cs)
  | _ => none

/-- The rest behind a comment. -/
def behindComment (rules : Whitespace) : List Char → Option TagEnd
  | [] => none
  | '+' :: '#' :: '\x7d' :: cs => some (false, cs)
  | '-' :: '#' :: '\x7d' :: cs => some (behindBlanks cs)
  | '#' :: '\x7d' :: cs => some (behindBreak rules cs)
  | _ :: cs => behindComment rules cs

/-- The rest behind a word and the white space around it. -/
def behindWord (word : String) (cs : List Char) : Option (List Char) :=
  let cs := cs.dropWhile isBlank
  if word.toList.isPrefixOf cs then some ((cs.drop word.length).dropWhile isBlank) else none

/-- The end of the statement that starts raw text; the cursor is behind the sign of its left
edge. -/
def rawStart (cs : List Char) : Option TagEnd := do
  match ← behindWord "raw" cs with
  | '-' :: '%' :: '\x7d' :: cs => some (behindBlanks cs)
  | '%' :: '\x7d' :: cs => some (false, cs)
  | _ => none

/-- Raw text, the sign in the left edge of the statement that ends it, and what is behind that. -/
def rawText (rules : Whitespace) : List Char → Option (List Char × EdgeSign × TagEnd)
  | [] => none
  | c :: cs =>
    let here := match c :: cs with
      | '\x7b' :: '%' :: rest => do
        let (sign, rest) := edgeSign rest
        let rest ← behindWord "endraw" rest
        let tagEnd ← statementEnd rules rest
        some ([], sign, tagEnd)
      | _ => none
    match here with
    | some found => some found
    | none => (rawText rules cs).map fun (text, found) => (c :: text, found)

/-! ### Pieces -/

/-- A kind of tag. -/
inductive TagKind
  | output | statement | comment
  deriving DecidableEq, Repr

/-- The text before the first tag, and the kind of that tag with what is behind its left edge. -/
def splitAtTag : List Char → List Char × Option (TagKind × List Char)
  | [] => ([], none)
  | '\x7b' :: '\x7b' :: cs => ([], some (.output, cs))
  | '\x7b' :: '%' :: cs => ([], some (.statement, cs))
  | '\x7b' :: '#' :: cs => ([], some (.comment, cs))
  | c :: cs =>
    let (text, tag) := splitAtTag cs
    (c :: text, tag)

/-- The text before a tag, less the white space that the tag takes away.  `lineBegins` says whether
the text starts a line. -/
def textBefore (rules : Whitespace) (lineBegins : Bool) (kind : TagKind) (sign : EdgeSign)
    (text : List Char) : List Char :=
  match sign with
  | .strip => trimEnd text
  | .keep => text
  | .none =>
    let lastLine := (text.reverse.takeWhile (· ≠ '\n')).reverse
    if rules.lstripBlocks && kind ≠ .output && (text.contains '\n' || lineBegins)
        && lastLine.all isBlank then
      text.take (text.length - lastLine.length)
    else text

/-- A piece of text, if it is not empty. -/
def textPiece (cs : List Char) : List Piece :=
  if cs = [] then [] else [.text (String.ofList cs)]

/-- What stands for a tag that has no end. -/
def brokenPiece : Piece := .statement ⟨[.broken .malformed], []⟩

/-- The pieces of the rest of a template, up to the first that is broken.  A comment or raw text
that starts at the very end of the template needs no end. -/
def piecesFrom (rules : Whitespace) (lineCount : Nat) : Nat → Bool → List Char → List Piece
  | 0, _, _ => []
  | fuel + 1, lineBegins, cs =>
    let onFrom : TagEnd → List Piece := fun (lineBegins, rest) =>
      piecesFrom rules lineCount fuel lineBegins rest
    match splitAtTag cs with
    | (text, none) => textPiece text
    | (text, some (kind, rest)) =>
      let (sign, rest) := edgeSign rest
      let before := textPiece (textBefore rules lineBegins kind sign text)
      match kind with
      | .output =>
        let (inside, tagEnd) := insideOf lineCount outputEnd rest
        before ++ .output inside :: tagEnd.elim [] onFrom
      | .comment =>
        if rest = [] then before
        else before ++ (behindComment rules rest).elim [brokenPiece] onFrom
      | .statement =>
        match rawStart rest with
        | some (lineBegins, rest) =>
          if rest = [] then before
          else
            match rawText rules rest with
            | none => before ++ [brokenPiece]
            | some (raw, sign, tagEnd) =>
              before ++ textPiece (textBefore rules lineBegins .statement sign raw) ++ onFrom tagEnd
        | none =>
          let (inside, tagEnd) := insideOf lineCount (statementEnd rules) rest
          before ++ .statement inside :: tagEnd.elim [] onFrom

/-- The text of a template, less the line break at its end if that is not to be kept. -/
def templateText (rules : Whitespace) (cs : List Char) : List Char :=
  if !rules.keepTrailingNewline && cs.getLast? = some '\n' then cs.dropLast else cs

/-- The pieces of a template, up to the first that is broken. -/
def pieces (rules : Whitespace) (cs : List Char) : List Piece :=
  let text := templateText rules cs
  piecesFrom rules (text.count '\n' + 1) (cs.length + 1) true text

end MobileSchema.Template
