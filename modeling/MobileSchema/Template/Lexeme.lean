import MobileSchema.Number.Literal
import MobileSchema.Text.Character
import MobileSchema.Text.Identifier

/-!
# The lexemes of templates

The words, literals and signs inside the tags of a template.  A place where no lexeme can be read is
kept as a broken lexeme, since it is a fault only if reading comes that far.
-/

namespace MobileSchema.Template

/-- Why a template cannot be read. -/
inductive ReadFault
  | malformed
  /-- a name that begins with an underscore is brought in -/
  | privateName
  /-- an integer is written with so many digits -/
  | tooManyDigits (count : Nat)
  /-- a decimal fraction has a digit of another script -/
  | foreignDigit (digit : Char)
  /-- the exponent of a decimal fraction starts with a digit of another script -/
  | foreignExponent
  deriving DecidableEq, Repr

/-- The message of a fault. -/
def ReadFault.message : ReadFault → String
  | malformed => "malformed template"
  | privateName => "names starting with an underline can not be imported"
  | tooManyDigits count =>
    s!"Exceeds the limit ({digitLimit} digits) for integer string conversion: value has {count} " ++
      "digits; use sys.set_int_max_str_digits() to increase the limit"
  | foreignDigit digit =>
    let code := String.ofList (Nat.toDigits 16 digit.toNat |>.map Char.toUpper)
    let zeros := String.ofList (List.replicate (4 - code.length) '0')
    s!"invalid character '{digit}' (U+{zeros}{code}) (<unknown>, line 1)"
  | foreignExponent => "invalid decimal literal (<unknown>, line 1)"

/-- A word, literal or sign inside a tag. -/
inductive Lexeme
  | name (s : String)
  /-- the text of a string, by the numbers of its characters -/
  | text (codes : List Nat)
  | number (n : Nat)
  /-- a decimal fraction, `digits · 10 ^ exponent` -/
  | fraction (digits : Nat) (exponent : Int)
  | sign (s : String)
  /-- what is no lexeme -/
  | broken (fault : ReadFault)
  deriving DecidableEq, Repr

/-! ### Signs -/

/-- The signs of two characters. -/
def doubleSigns : List String := ["//", "**", "==", "!=", ">=", "<="]

/-- The signs of one character. -/
def singleSigns : List Char := "+-/*%~[]()\x7b\x7d><=.:|,;".toList

/-! ### Numbers -/

/-- Digits, each with an underscore before it or not: their values, and the rest. -/
def spacedDigits (value? : Char → Option Nat) : List Char → List Nat × List Char
  | [] => ([], [])
  | '_' :: c :: cs =>
    match value? c with
    | some d =>
      let (digits, rest) := spacedDigits value? cs
      (d :: digits, rest)
    | none => ([], '_' :: c :: cs)
  | c :: cs =>
    match value? c with
    | some d =>
      let (digits, rest) := spacedDigits value? cs
      (d :: digits, rest)
    | none => ([], c :: cs)

/-- Digits that do not begin with an underscore: their values, and the rest. -/
def plainDigits (cs : List Char) : List Nat × List Char :=
  if cs.head? = some '_' then ([], cs) else spacedDigits digitValue? cs

/-- The value of a digit of a base; the decimal digits of all scripts are hexadecimal ones too. -/
def digitBelow? (base : Nat) (c : Char) : Option Nat :=
  let value := if base = 16 then hexValue? c <|> digitValue? c else hexValue? c
  value.bind fun d => if d < base then some d else none

/-- The base that a letter behind a zero announces. -/
def baseOf? (c : Char) : Option Nat :=
  [('b', 2), ('B', 2), ('o', 8), ('O', 8), ('x', 16), ('X', 16)].lookup c

/-- The exponent of a decimal fraction, and the rest. -/
def exponent? : List Char → Option (Int × List Char)
  | c :: cs =>
    if c = 'e' || c = 'E' then
      let (negative, cs) := match cs with
        | '-' :: cs => (true, cs)
        | '+' :: cs => (false, cs)
        | cs => (false, cs)
      let (digits, rest) := plainDigits cs
      let n : Int := ofDigits 10 digits
      if digits = [] then none else some (if negative then -n else n, rest)
    else none
  | [] => none

/-- The fault in the characters of a decimal fraction, if digits of other scripts are among them. -/
def foreignFault? : List Char → Option ReadFault
  | 'e' :: c :: cs | 'E' :: c :: cs =>
    let first := if c = '-' || c = '+' then cs.headD c else c
    if 128 ≤ first.toNat then some .foreignExponent else foreignFault? (c :: cs)
  | c :: cs => if 128 ≤ c.toNat then some (.foreignDigit c) else foreignFault? cs
  | [] => none

/-- A decimal fraction at the start of a text: digits with digits behind a point, or with an
exponent, or with both. -/
def fraction? (cs : List Char) : Option (Lexeme × List Char) :=
  let (whole, rest) := plainDigits cs
  let (behind, rest) := match rest with
    | '.' :: more =>
      let (behind, more) := plainDigits more
      if behind = [] then ([], rest) else (behind, more)
    | rest => ([], rest)
  let number (exponent : Int) (rest : List Char) : Lexeme × List Char :=
    match foreignFault? (cs.take (cs.length - rest.length)) with
    | some fault => (.broken fault, rest)
    | none => (.fraction (ofDigits 10 (whole ++ behind)) (exponent - behind.length), rest)
  if whole = [] then none
  else
    match exponent? rest with
    | some (exponent, rest) => some (number exponent rest)
    | none => if behind = [] then none else some (number 0 rest)

/-- An integer at the start of a text: digits behind a zero and the letter of a base, decimal digits
that begin with no zero, or zeros. -/
def integer? : List Char → Option (Lexeme × List Char)
  | '0' :: cs =>
    let based := match cs with
      | c :: rest => (baseOf? c).bind fun base =>
        match spacedDigits (digitBelow? base) rest with
        | ([], _) => none
        | (digits, rest) => some (Lexeme.number (ofDigits base digits), rest)
      | [] => none
    based.getD (.number 0, (spacedDigits (digitBelow? 1) cs).2)
  | c :: cs =>
    if c.isDigit then
      let (digits, rest) := spacedDigits digitValue? (c :: cs)
      if digitLimit < digits.length then some (.broken (.tooManyDigits digits.length), rest)
      else some (.number (ofDigits 10 digits), rest)
    else none
  | [] => none

/-! ### Strings -/

/-- The rest of a string, up to the quote that closes it; a backslash keeps the next character from
closing it. -/
def stringBody (quote : Char) : List Char → Option (List Char × List Char)
  | [] => none
  | '\\' :: c :: cs => (stringBody quote cs).map fun (s, rest) => ('\\' :: c :: s, rest)
  | c :: cs =>
    if c = quote then some ([], cs)
    else if c = '\\' then none
    else (stringBody quote cs).map fun (s, rest) => (c :: s, rest)

/-- A number in hexadecimal digits, as many as are needed. -/
def hexText (n : Nat) : List Char := Nat.toDigits 16 n

/-- A text in ASCII, all other characters written by their numbers behind a backslash. -/
def asciiText (cs : List Char) : List Char :=
  cs.flatMap fun c =>
    let digits := hexText c.toNat
    let padded (width : Nat) := List.replicate (width - digits.length) '0' ++ digits
    if c.toNat < 128 then [c]
    else if c.toNat < 256 then '\\' :: 'x' :: padded 2
    else if c.toNat < 65536 then '\\' :: 'u' :: padded 4
    else '\\' :: 'U' :: padded 8

/-- The characters that one letter behind a backslash stands for. -/
def escapeOf? (c : Char) : Option Char :=
  [('\\', '\\'), ('\'', '\''), ('"', '"'), ('a', '\x07'), ('b', '\x08'), ('f', '\x0c'),
    ('n', '\n'), ('r', '\r'), ('t', '\t'), ('v', '\x0b')].lookup c

/-- The number of hexadecimal digits that a letter behind a backslash announces. -/
def escapeWidth? (c : Char) : Option Nat := [('x', 2), ('u', 4), ('U', 8)].lookup c

/-- An octal digit. -/
def isOctal (c : Char) : Bool := '0' ≤ c && c ≤ '7'

/-- Replaces the escapes of a string, by the numbers of its characters.  A backslash before any
other character stands for itself. -/
def unescape : Nat → List Char → Option (List Nat)
  | 0, _ => some []
  | _, [] => some []
  | fuel + 1, '\\' :: c :: cs =>
    match escapeOf? c, escapeWidth? c with
    | some e, _ => (unescape fuel cs).map (e.toNat :: ·)
    | none, some width => do
      let values ← (cs.take width).mapM hexValue?
      if values.length < width || 0x110000 ≤ ofDigits 16 values then none
      let rest ← unescape fuel (cs.drop width)
      return ofDigits 16 values :: rest
    | none, none =>
      if c = '\n' then unescape fuel cs
      else if c = 'N' then none
      else if isOctal c then
        let digits := (c :: cs.take 2).takeWhile isOctal
        let n := ofDigits 8 (digits.map fun d => d.toNat - '0'.toNat)
        (unescape fuel (cs.drop (digits.length - 1))).map (n :: ·)
      else (unescape fuel cs).map ('\\'.toNat :: c.toNat :: ·)
  | fuel + 1, c :: cs => if c = '\\' then none else (unescape fuel cs).map (c.toNat :: ·)

/-! ### All -/

/-- The lexeme at the start of a text, and the rest.  Right behind a point there is no fraction. -/
def lexeme? (behindPoint : Bool) : List Char → Option (Lexeme × List Char)
  | [] => none
  | c :: cs =>
    let number := (if behindPoint then none else fraction? (c :: cs)) <|> integer? (c :: cs)
    if number.isSome then number
    else if continuesIdentifier c then
      if startsIdentifier c then
        some (.name (String.ofList ((c :: cs).takeWhile continuesIdentifier)),
          (c :: cs).dropWhile continuesIdentifier)
      else none
    else if c = '\'' || c = '"' then do
      let (body, rest) ← stringBody c cs
      let text := asciiText body
      return (.text (← unescape (text.length + 1) text), rest)
    else
      let double := String.ofList ((c :: cs).take 2)
      if doubleSigns.contains double then some (.sign double, cs.drop 1)
      else if singleSigns.contains c then some (.sign (String.ofList [c]), cs)
      else none

end MobileSchema.Template
