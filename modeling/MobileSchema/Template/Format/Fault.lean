/-!
# Faults of formats

Why a text with marked places cannot be filled in, and why an object cannot be written as a field
asks for it.
-/

namespace MobileSchema.Template

/-- What a field has to be written as, where messages say what is not allowed for it. -/
inductive FieldSort
  | text | integer | character
  deriving DecidableEq, Repr

/-- A part of a field format. -/
inductive FieldPart
  | sign | space | alternate | signAlignment | noNegativeZero | precision
  deriving DecidableEq, Repr

/-- Why a text cannot be filled in. -/
inductive FormatFault
  /-- there are fewer arguments than places -/
  | tooFew
  /-- there are more arguments than places -/
  | tooMany
  | incomplete
  | incompleteKey
  | needsMapping
  /-- the width or the precision is no integer -/
  | starNeedsInteger
  | widthTooBig
  | precisionTooBig
  /-- a letter at a place announces nothing -/
  | unknownLetter (letter : Char) (place : Nat)
  /-- a letter is for numbers, of some sort -/
  | needsNumber (letter : Char) (sort type : String)
  | needsReal (type : String)
  | needsCharacter
  | characterRange
  /-- an integer is too large for the width of a word -/
  | tooLong
  | tooLongPrecision
  /-- a brace that closes nothing, or that nothing closes -/
  | lone (brace : Char)
  | unclosed
  | unclosedFormat
  | braceInName
  | conversionExpected
  | colonExpected
  | tooDeep
  /-- there is no argument for a place -/
  | beyond (place : Nat)
  | placesUnknown
  /-- numbered and unnumbered places -/
  | toNumbered
  | toUnnumbered
  | tooManyDigits
  /-- a code that objects of a type do not know -/
  | unknownCode (code : Char) (type : String)
  | invalidSpecifier (specifier type : String)
  /-- objects of a type know no codes at all -/
  | noFormat (type : String)
  /-- something else than `s`, `r` or `a` is behind the exclamation mark -/
  | unknownConversion (c : Char)
  | notAllowed (part : FieldPart) (sort : FieldSort)
  | missingPrecision
  | bothSeparators
  | separatorFor (separator code : Char)
  | emptyAttribute
  | afterBracket
  /-- a text that is safe in a page is to be written in a format -/
  | forMarkup
  deriving DecidableEq, Repr

/-- A number in hexadecimal digits. -/
def hexadecimal (n : Nat) : String := String.ofList (Nat.toDigits 16 n)

/-- A character that stands for itself if its number is above that of the space and below a limit,
or else its number. -/
def codeText (limit : Nat) (c : Char) : String :=
  if 32 < c.toNat && c.toNat < limit then String.ofList [c] else "\\x" ++ hexadecimal c.toNat

/-- The name of what a field has to be written as. -/
def FieldSort.inMessage : FieldSort → String
  | text => "in string format specifier"
  | integer => "in integer format specifier"
  | character => "with integer format specifier 'c'"

/-- The name of a part of a field format. -/
def FieldPart.name : FieldPart → String
  | sign => "Sign"
  | space => "Space"
  | alternate => "Alternate form (#)"
  | signAlignment => "'=' alignment"
  | noNegativeZero => "Negative zero coercion (z)"
  | precision => "Precision"

/-- The message of a refusal. -/
def FormatFault.message : FormatFault → String
  | tooFew => "not enough arguments for format string"
  | tooMany => "not all arguments converted during string formatting"
  | incomplete => "incomplete format"
  | incompleteKey => "incomplete format key"
  | needsMapping => "format requires a mapping"
  | starNeedsInteger => "* wants int"
  | widthTooBig => "width too big"
  | precisionTooBig => "precision too big"
  | unknownLetter letter place =>
    let shown := if 31 ≤ letter.toNat && letter.toNat < 127 then letter else '?'
    s!"unsupported format character '{shown}' (0x{hexadecimal letter.toNat}) at index {place}"
  | needsNumber letter sort type => s!"%{letter} format: {sort} is required, not {type}"
  | needsReal type => s!"must be real number, not {type}"
  | needsCharacter => "%c requires int or char"
  | characterRange => "%c arg not in range(0x110000)"
  | tooLong => "Python int too large to convert to C long"
  | tooLongPrecision => "Python int too large to convert to C int"
  | lone brace =>
    if brace = '\x7b' then "Single '\x7b' encountered in format string"
    else "Single '\x7d' encountered in format string"
  | unclosed => "expected '\x7d' before end of string"
  | unclosedFormat => "unmatched '\x7b' in format spec"
  | braceInName => "unexpected '\x7b' in field name"
  | conversionExpected => "end of string while looking for conversion specifier"
  | colonExpected => "expected ':' after conversion specifier"
  | tooDeep => "Max string recursion exceeded"
  | beyond place => s!"Replacement index {place} out of range for positional args tuple"
  | placesUnknown => "Format string contains positional fields"
  | toNumbered =>
    "cannot switch from automatic field numbering to manual field specification"
  | toUnnumbered =>
    "cannot switch from manual field specification to automatic field numbering"
  | tooManyDigits => "Too many decimal digits in format string"
  | unknownCode code type => s!"Unknown format code '{codeText 128 code}' for object of type '{type}'"
  | invalidSpecifier specifier type =>
    s!"Invalid format specifier '{specifier}' for object of type '{type}'"
  | noFormat type => s!"unsupported format string passed to {type}.__format__"
  | unknownConversion c => s!"Unknown conversion specifier {codeText 127 c}"
  | notAllowed part sort => s!"{part.name} not allowed {sort.inMessage}"
  | missingPrecision => "Format specifier missing precision"
  | bothSeparators => "Cannot specify both ',' and '_'."
  | separatorFor separator code => s!"Cannot specify '{separator}' with '{codeText 128 code}'."
  | emptyAttribute => "Empty attribute in format string"
  | forMarkup => "Unsupported format specification for Markup."
  | afterBracket => "Only '.' or '[' may follow ']' in format field specifier"

end MobileSchema.Template
