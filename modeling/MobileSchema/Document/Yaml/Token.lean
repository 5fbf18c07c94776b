import MobileSchema.Document.Yaml.ScalarText

/-!
# Tokens

A YAML text as a list of tokens.  Indentation becomes tokens that open and close block collections.

A mapping key need not be announced: only the colon behind it tells that a key has been read.  So a
token that could start a key is remembered as a candidate, and when the colon comes its place is
marked.  `Lexer.linearised` puts the tokens of the marks in at the end, which leaves the tokens
themselves in the order of the text.
-/

namespace MobileSchema.Yaml

open DocumentFault

/-- A token. -/
inductive Token
  | versionDirective (major : Nat)
  | tagDirective (handle tagPrefix : String)
  | otherDirective
  | documentStart
  | documentEnd
  | streamEnd
  | blockSequenceStart
  | blockMappingStart
  | blockEnd
  | flowSequenceStart
  | flowSequenceEnd
  | flowMappingStart
  | flowMappingEnd
  | blockEntry
  | flowEntry
  | key
  | value
  | alias (name : String)
  | anchor (name : String)
  /-- a tag, with the handle that its beginning is short for -/
  | tag (handle : Option String) (suffix : String)
  | scalar (text : String) (plain : Bool)
  /-- a quoted scalar with halves of surrogate pairs, by the numbers of its characters -/
  | halved (codes : List Nat)
  /-- the text cannot be read from here on -/
  | broken (fault : DocumentFault)
  deriving DecidableEq, Repr

/-! ### Directives, names and tags -/

/-- A nonempty name of letters, digits, hyphens and underscores. -/
def scanName (c : Cursor) : Except DocumentFault (String × Cursor) :=
  match c.span isNameChar with
  | ([], _) => .error malformed
  | (name, c) => .ok (String.ofList name, c)

/-- A nonempty run of decimal digits. -/
def scanNumber (c : Cursor) : Except DocumentFault (Nat × Cursor) :=
  match c.span Char.isDigit with
  | ([], _) => .error malformed
  | (digits, c) =>
    if digitLimit < digits.length then .error (tooManyDigits digits.length)
    else .ok (ofDigits 10 (digits.map fun d => d.toNat - '0'.toNat), c)

/-- The beginning of a tag between exclamation marks. -/
def scanTagHandle (c : Cursor) : Except DocumentFault (String × Cursor) :=
  if c.here ≠ '!' then .error malformed
  else if c.peek 1 = ' ' then .ok ("!", c.next)
  else
    let (name, c) := c.next.span isNameChar
    if c.here = '!' then .ok (String.ofList ('!' :: name ++ ['!']), c.next) else .error malformed

/-- Whether a character may stand in a tag as itself. -/
def isTagChar (c : Char) : Bool := c.isAlphanum || "-;/?:@&=+$,_.!~*'()[]".toList.contains c

/-- The bytes that percent signs and two hexadecimal digits each stand for. -/
def scanPercentBytes : Nat → Cursor → Except DocumentFault (List UInt8 × Cursor)
  | 0, c => .ok ([], c)
  | fuel + 1, c =>
    if c.here = '%' then
      match hexValue? (c.peek 1), hexValue? (c.peek 2) with
      | some high, some low => do
        let (bytes, c) ← scanPercentBytes fuel (c.advance 3)
        return ((16 * high + low).toUInt8 :: bytes, c)
      | _, _ => .error malformed
    else .ok ([], c)

/-- The characters of a tag, possibly none. -/
def scanTagChars : Nat → Cursor → Except DocumentFault (List Char × Cursor)
  | 0, c => .ok ([], c)
  | fuel + 1, c =>
    if isTagChar c.here then do
      let (more, next) ← scanTagChars fuel c.next
      return (c.here :: more, next)
    else if c.here = '%' then do
      let (bytes, c) ← scanPercentBytes c.rest.length c
      match String.fromUTF8? ⟨bytes.toArray⟩ with
      | none => .error malformed
      | some text =>
        let (more, c) ← scanTagChars fuel c
        return (text.toList ++ more, c)
    else .ok ([], c)

/-- The characters of a tag. -/
def scanTagText (c : Cursor) : Except DocumentFault (String × Cursor) := do
  if !(isTagChar c.here || c.here = '%') then throw malformed
  let (text, c) ← scanTagChars c.rest.length c
  return (String.ofList text, c)

/-- Whether a tag has an exclamation mark before its end, behind its first character. -/
def hasHandle (c : Cursor) : Bool :=
  (c.next.rest.takeWhile (!endsWord ·)).contains '!'

/-- A tag, from its exclamation mark on. -/
def scanTag (c : Cursor) : Except DocumentFault (Token × Cursor) := do
  let (token, c) ←
    if c.peek 1 = '<' then do
      let (suffix, c) ← scanTagText (c.advance 2)
      if c.here ≠ '>' then throw malformed
      pure (Token.tag none suffix, c.next)
    else if endsIndicator (c.peek 1) then pure (Token.tag none "!", c.next)
    else do
      let (handle, c) ← if hasHandle c then scanTagHandle c else pure ("!", c.next)
      let (suffix, c) ← scanTagText c
      pure (Token.tag (some handle) suffix, c)
  if !endsWord c.here then throw malformed
  return (token, c)

/-- The name behind the sign of an anchor or an alias. -/
def scanReference (c : Cursor) : Except DocumentFault (String × Cursor) := do
  let (name, c) ← scanName c.next
  if !(endsIndicator c.here || "?:,]\x7d%@`".toList.contains c.here) then throw malformed
  return (name, c)

/-- A directive, from its percent sign to the end of its line. -/
def scanDirective (c : Cursor) : Except DocumentFault (Token × Cursor) := do
  let (name, c) ← scanName c.next
  if !endsWord c.here then throw malformed
  let (token, c) ←
    if name = "YAML" then do
      let (major, c) ← scanNumber c.skipSpaces
      if c.here ≠ '.' then throw malformed
      let (_, c) ← scanNumber c.next
      if !endsWord c.here then throw malformed
      pure (Token.versionDirective major, c)
    else if name = "TAG" then do
      let (handle, c) ← scanTagHandle c.skipSpaces
      if c.here ≠ ' ' then throw malformed
      let (tagPrefix, c) ← scanTagText c.skipSpaces
      if !endsWord c.here then throw malformed
      pure (Token.tagDirective handle tagPrefix, c)
    else pure (Token.otherDirective, c.skip (!endsLine ·))
  let c := c.skipSpaces.skipComment
  if !endsLine c.here then throw malformed
  return (token, c.lineBreak.2)

/-! ### The state of the lexer -/

/-- A token that may turn out to start a key. -/
structure KeyCandidate where
  /-- the number of brackets open around it -/
  depth : Nat
  /-- the number of tokens before it -/
  position : Nat
  /-- whether the indentation says that it has to be a key -/
  required : Bool
  index : Nat
  line : Nat
  column : Nat

/-- A place where a key starts. -/
structure KeyMark where
  /-- the number of tokens before the key -/
  position : Nat
  /-- whether the key opens a block mapping -/
  opensMapping : Bool

/-- How far a text has been cut into tokens. -/
structure Lexer where
  cursor : Cursor
  tokens : List Token := []
  marks : List KeyMark := []
  /-- the number of brackets open -/
  depth : Nat := 0
  /-- the indentation of the innermost block collection -/
  indent : Int := -1
  /-- the indentations of the block collections around it -/
  outer : List Int := []
  /-- whether a key may start here -/
  keyAllowed : Bool := true
  candidates : List KeyCandidate := []

namespace Lexer

/-- Adds a token; the tokens are kept last one first. -/
def push (l : Lexer) (token : Token) : Lexer := { l with tokens := token :: l.tokens }

/-- Adds a token of `n` characters. -/
def pushIndicator (l : Lexer) (n : Nat) (token : Token) : Lexer :=
  { l with tokens := token :: l.tokens, cursor := l.cursor.advance n }

/-- The column of the cursor. -/
def column (l : Lexer) : Int := l.cursor.column

/-- Closes the block collections that are indented further than `column`. -/
def closeBlocks (l : Lexer) (column : Int) : Lexer :=
  if l.depth ≠ 0 then l
  else
    let closed := (l.indent :: l.outer).takeWhile (column < ·)
    match (l.indent :: l.outer).drop closed.length with
    | [] => l
    | indent :: outer =>
      { l with indent, outer, tokens := closed.map (fun _ => Token.blockEnd) ++ l.tokens }

/-- Whether a block collection at `column` would be a new one. -/
def opensBlock (l : Lexer) (column : Int) : Bool := l.indent < column

/-- Opens a block collection at `column`, unless the innermost one stands there. -/
def openBlock (l : Lexer) (column : Int) (token : Token) : Lexer :=
  if l.opensBlock column then
    { l with indent := column, outer := l.indent :: l.outer, tokens := token :: l.tokens }
  else l

/-- Whether a candidate cannot be a key any more, since a key is short and ends on the line on which
it starts. -/
def isStale (l : Lexer) (k : KeyCandidate) : Bool :=
  k.line ≠ l.cursor.line || 1024 < l.cursor.index - k.index

/-- Forgets the candidates that cannot be keys any more. -/
def dropStale (l : Lexer) : Except DocumentFault Lexer :=
  if l.candidates.any fun k => l.isStale k && k.required then .error malformed
  else .ok { l with candidates := l.candidates.filter (!l.isStale ·) }

/-- Forgets the candidate of the innermost brackets. -/
def dropCandidate (l : Lexer) : Except DocumentFault Lexer :=
  if l.candidates.any fun k => k.depth = l.depth && k.required then .error malformed
  else .ok { l with candidates := l.candidates.filter (·.depth ≠ l.depth) }

/-- Remembers the next token as a candidate, if a key may start here. -/
def saveCandidate (l : Lexer) : Except DocumentFault Lexer :=
  if !l.keyAllowed then .ok l
  else do
    let l ← l.dropCandidate
    let candidate : KeyCandidate :=
      { depth := l.depth, position := l.tokens.length,
        required := l.depth = 0 && l.indent = l.column,
        index := l.cursor.index, line := l.cursor.line, column := l.cursor.column }
    return { l with candidates := candidate :: l.candidates }

/-- The cursor at the next token: spaces, comments and empty lines are passed, and behind a line
break a key may start. -/
def skipToToken : Nat → Lexer → Lexer
  | 0, l => l
  | fuel + 1, l =>
    let cursor := l.cursor.skipSpaces.skipComment
    if isBreak cursor.here then
      skipToToken fuel
        { l with cursor := cursor.lineBreak.2, keyAllowed := l.keyAllowed || l.depth = 0 }
    else { l with cursor }

/-! ### One token -/

/-- Adds a token that an indicator between documents or a directive stands for. -/
def scanBetweenDocuments (l : Lexer) (token : Token) (cursor : Cursor) :
    Except DocumentFault Lexer := do
  let l ← (l.closeBlocks (-1)).dropCandidate
  return { l.push token with cursor, keyAllowed := false }

/-- The opening bracket of a flow collection. -/
def scanFlowStart (l : Lexer) (token : Token) : Except DocumentFault Lexer := do
  let l ← l.saveCandidate
  return { l.pushIndicator 1 token with depth := l.depth + 1, keyAllowed := true }

/-- The closing bracket of a flow collection. -/
def scanFlowEnd (l : Lexer) (token : Token) : Except DocumentFault Lexer := do
  if l.depth = 0 then throw malformed
  let l ← l.dropCandidate
  return { l.pushIndicator 1 token with depth := l.depth - 1, keyAllowed := false }

/-- The comma in a flow collection. -/
def scanFlowEntry (l : Lexer) : Except DocumentFault Lexer := do
  let l ← l.dropCandidate
  return { l.pushIndicator 1 .flowEntry with keyAllowed := true }

/-- The hyphen before an item of a block sequence. -/
def scanBlockEntry (l : Lexer) : Except DocumentFault Lexer := do
  if l.depth = 0 && !l.keyAllowed then throw malformed
  let l := if l.depth = 0 then l.openBlock l.column .blockSequenceStart else l
  let l ← l.dropCandidate
  return { l.pushIndicator 1 .blockEntry with keyAllowed := true }

/-- The question mark before a key. -/
def scanKey (l : Lexer) : Except DocumentFault Lexer := do
  if l.depth = 0 && !l.keyAllowed then throw malformed
  let l := if l.depth = 0 then l.openBlock l.column .blockMappingStart else l
  let l ← l.dropCandidate
  return { l.pushIndicator 1 .key with keyAllowed := l.depth = 0 }

/-- The colon before a value.  If a candidate waits for it, the candidate starts a key. -/
def scanValue (l : Lexer) : Except DocumentFault Lexer :=
  match l.candidates.find? (·.depth = l.depth) with
  | some k =>
    let opens := l.depth = 0 && l.opensBlock k.column
    let l := { l with
      candidates := l.candidates.filter (·.depth ≠ l.depth)
      marks := ⟨k.position, opens⟩ :: l.marks
      indent := if opens then (k.column : Int) else l.indent
      outer := if opens then l.indent :: l.outer else l.outer
      keyAllowed := false }
    .ok (l.pushIndicator 1 .value)
  | none => do
    if l.depth = 0 && !l.keyAllowed then throw malformed
    let l := if l.depth = 0 then l.openBlock l.column .blockMappingStart else l
    let l ← l.dropCandidate
    return { l.pushIndicator 1 .value with keyAllowed := l.depth = 0 }

/-- A token that may start a key and that `scan` reads. -/
def scanContent (l : Lexer) (scan : Cursor → Except DocumentFault (Token × Cursor)) :
    Except DocumentFault Lexer := do
  let l ← l.saveCandidate
  let (token, cursor) ← scan l.cursor
  return { l.push token with cursor, keyAllowed := false }

/-- A block scalar. -/
def scanBlockScalar (l : Lexer) (folded : Bool) : Except DocumentFault Lexer := do
  let l ← l.dropCandidate
  let (text, cursor) ← blockScalar folded l.indent l.cursor
  return { l.push (.scalar (String.ofList text) false) with cursor, keyAllowed := true }

/-- A quoted scalar as a token. -/
def scanQuoted (c : Cursor) : Except DocumentFault (Token × Cursor) := do
  let (codes, c) ← quotedScalar c
  return ((textOfCodes? codes).elim (.halved codes) (.scalar · false), c)

/-- A plain scalar. -/
def scanPlain (l : Lexer) : Except DocumentFault Lexer := do
  let l ← l.saveCandidate
  let (text, newLine, cursor) :=
    plainFrom (l.depth ≠ 0) (l.indent + 1) [] false (l.cursor.rest.length + 1) l.cursor
  return { l.push (.scalar (String.ofList text) true) with cursor, keyAllowed := newLine }

/-- Whether a plain scalar may start at the cursor. -/
def startsPlain (l : Lexer) : Bool :=
  let c := l.cursor.here
  !(endsIndicator c || "-?:,[]\x7b\x7d#&*!|>'\"%@`".toList.contains c)
    || (!endsIndicator (l.cursor.peek 1) && (c = '-' || (l.depth = 0 && (c = '?' || c = ':'))))

/-- Scans the token at the cursor. -/
def scanToken (l : Lexer) : Except DocumentFault Lexer :=
  let c := l.cursor
  let inBlock : Bool := l.depth = 0
  let standsAlone := endsIndicator (c.peek 1)
  if c.here = '%' && c.column = 0 then do
    let (token, cursor) ← scanDirective c
    l.scanBetweenDocuments token cursor
  else if c.column = 0 && c.atMarker '-' then l.scanBetweenDocuments .documentStart (c.advance 3)
  else if c.column = 0 && c.atMarker '.' then l.scanBetweenDocuments .documentEnd (c.advance 3)
  else if c.here = '[' then l.scanFlowStart .flowSequenceStart
  else if c.here = '\x7b' then l.scanFlowStart .flowMappingStart
  else if c.here = ']' then l.scanFlowEnd .flowSequenceEnd
  else if c.here = '\x7d' then l.scanFlowEnd .flowMappingEnd
  else if c.here = ',' then l.scanFlowEntry
  else if c.here = '-' && standsAlone then l.scanBlockEntry
  else if c.here = '?' && (!inBlock || standsAlone) then l.scanKey
  else if c.here = ':' && (!inBlock || standsAlone) then l.scanValue
  else if c.here = '*' then
    l.scanContent fun c => (scanReference c).map fun (name, c) => (.alias name, c)
  else if c.here = '&' then
    l.scanContent fun c => (scanReference c).map fun (name, c) => (.anchor name, c)
  else if c.here = '!' then l.scanContent scanTag
  else if c.here = '|' && inBlock then l.scanBlockScalar false
  else if c.here = '>' && inBlock then l.scanBlockScalar true
  else if c.here = '\'' || c.here = '"' then l.scanContent scanQuoted
  else if l.startsPlain then l.scanPlain
  else .error malformed

/-- Ends the text. -/
def scanEnd (l : Lexer) : Except DocumentFault Lexer := do
  let l ← (l.closeBlocks (-1)).dropCandidate
  return l.push .streamEnd

/-! ### All tokens -/

/-- The tokens of a list, the one at the head the `position`-th, with those of the marks put in. -/
def withMarks (marks : List KeyMark) : Nat → List Token → List Token
  | _, [] => []
  | position, token :: rest =>
    let here := marks.filter (·.position = position)
    (here.flatMap fun m => if m.opensMapping then [.blockMappingStart, .key] else [.key])
      ++ token :: withMarks marks (position + 1) rest

/-- The tokens in the order of the text, those of the marks among them. -/
def linearised (l : Lexer) : List Token := withMarks l.marks 0 l.tokens.reverse

/-- Ends the tokens with a fault.  A candidate is not passed on before it is known what follows it,
so neither it nor what stands behind it is passed on at all. -/
def breakOff (l : Lexer) (fault : DocumentFault) : Lexer :=
  let waiting := (l.candidates.filter (!l.isStale ·)).map (·.position)
  let passed := waiting.foldl min l.tokens.length
  { l with tokens := .broken fault :: l.tokens.drop (l.tokens.length - passed) }

/-- Scans the next token, with what the indentation before it closes. -/
def scanNext (l : Lexer) : Except DocumentFault Lexer := do
  let l ← (l.skipToToken (l.cursor.rest.length + 1)).dropStale
  let l := l.closeBlocks l.column
  if l.cursor.rest = [] then l.scanEnd else l.scanToken

/-- Scans the rest of the text.  Where it cannot be read the tokens end with the fault. -/
def scanAll : Nat → Lexer → Lexer
  | 0, l => l.breakOff malformed
  | fuel + 1, l =>
    match l.scanNext with
    | .error fault => l.breakOff fault
    | .ok next => if next.tokens.head? = some .streamEnd then next else scanAll fuel next

end Lexer

/-- Whether a character may stand in a YAML text. -/
def isAllowed (c : Char) : Bool :=
  let n := c.toNat
  n = 9 || n = 10 || n = 13 || n = 0x85 || (0x20 ≤ n && n ≤ 0x7E) || (0xA0 ≤ n && n ≤ 0xD7FF)
    || (0xE000 ≤ n && n ≤ 0xFFFD) || 0x10000 ≤ n

/-- The tokens of a text.  A byte order mark at its start is passed. -/
def tokens (text : List Char) : List Token :=
  if !text.all isAllowed then [.broken malformed]
  else
    let start : Cursor := { rest := text }
    let cursor := if start.here = '\uFEFF' then start.next else start
    (Lexer.scanAll (2 * text.length + 2) { cursor }).linearised

end MobileSchema.Yaml
