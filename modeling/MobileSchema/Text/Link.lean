import MobileSchema.Text.Page
import MobileSchema.Text.Pattern
import MobileSchema.Text.Wrapping

/-!
# Links in texts

Words that look like addresses of pages or of mail boxes become links of a page.  Brackets and marks
around a word do not belong to it, unless brackets inside of it would be left open.
-/

namespace MobileSchema

/-! ### Addresses -/

/-- The patterns of addresses. -/
def addressPattern : Pattern :=
  let part : Pattern := .char fun c => isWordChar c || c = '%' || c = '-'
  let point : Pattern := .char (· = '.')
  let small : Pattern := .char fun c =>
    ('a' ≤ c.toLower && c.toLower ≤ 'z') || "İıſ\u212a".toList.contains c
  let digit : Pattern := .char isDigit
  let colon : Pattern := .char (· = ':')
  let hex : Pattern := .char fun c => isDigit c || ('a' ≤ c.toLower && c.toLower ≤ 'f')
  let scheme : Pattern := .inTurn [.word "http", .optional (.word "s"), .word "://"]
  let idna : Pattern := .inTurn [.word "xn--",
    .times (.char fun c => isWordChar c || c = '%') 2 59]
  let sites : Pattern := .inTurn [.oneOf [scheme, .word "www."],
    .optional (.many (.inTurn [.many part, point])), .oneOf [.times small 2 63, idna]]
  let domains : Pattern := .inTurn [.many (.inTurn [.times part 2 63, point]),
    .oneOf (["com", "net", "int", "edu", "gov", "org", "info", "mil"].map .word)]
  let numbers : Pattern := .inTurn [.times digit 1 3, .times (.inTurn [point, .times digit 1 3]) 3 3]
  let words : Pattern := .inTurn [.char (· = '['), .times (.inTurn [.times hex 0 4, colon]) 2 2,
    .times (.inTurn [.times hex 0 4, .optional colon]) 1 6, .char (· = ']')]
  let hosts : Pattern := .inTurn [scheme, .oneOf [numbers, words]]
  .inTurn [.oneOf [sites, domains, hosts], .optional (.inTurn [colon, .times digit 1 5]),
    .optional (.inTurn [.char fun c => c = '/' || c = '?' || c = '#',
      .optional (.many (.char (!isBlank ·)))])]

/-- The pattern of the addresses of mail boxes. -/
def mailPattern : Pattern :=
  let part : Pattern := .char isWordChar
  .inTurn [.many (.char (!isBlank ·)), .char (· = '@'), part,
    .optional (.many (.char fun c => isWordChar c || c = '.' || c = '-')), .char (· = '.'),
    .many part]

/-! ### Words -/

/-- A word without the brackets and marks around it. -/
structure BareWord where
  head : List Char := []
  middle : List Char
  tail : List Char := []

/-- The brackets that a word begins with, and the rest. -/
def leadingBrackets : Nat → List Char → List Char × List Char
  | 0, cs => ([], cs)
  | fuel + 1, cs =>
    match ["(", "<", "&lt;"].find? fun bracket => bracket.toList.isPrefixOf cs with
    | none => ([], cs)
    | some bracket =>
      let (head, rest) := leadingBrackets fuel (cs.drop bracket.length)
      (bracket.toList ++ head, rest)

/-- The rest of a word before its closing brackets and marks, and these. -/
def trailingMarks : Nat → List Char → List Char × List Char
  | 0, cs => (cs, [])
  | fuel + 1, cs =>
    match [")", ">", ".", ",", "\n", "&gt;"].find? fun mark => mark.toList.isSuffixOf cs with
    | none => (cs, [])
    | some mark =>
      let (rest, tail) := trailingMarks fuel (cs.take (cs.length - mark.length))
      (rest, tail ++ mark.toList)

/-- A word with as many closing brackets taken back as it has open ones. -/
def BareWord.balanced (w : BareWord) (opening closing : List Char) : BareWord :=
  let missing := countOccurrences opening w.middle - countOccurrences closing w.middle
  let taken := if missing = 0 then 0
    else min (countOccurrences opening w.middle) (countOccurrences closing w.tail)
  (List.range taken).foldl (fun w _ =>
    match splitAtFirst? closing w.tail with
    | some (before, behind) => { w with middle := w.middle ++ before ++ closing, tail := behind }
    | none => w) w

/-- A word without the brackets and marks around it. -/
def BareWord.of (cs : List Char) : BareWord :=
  let (head, rest) := leadingBrackets cs.length cs
  let (middle, tail) := trailingMarks rest.length rest
  let w : BareWord := { head, middle, tail }
  ((w.balanced ['('] [')']).balanced ['<'] ['>']).balanced "&lt;".toList "&gt;".toList

/-! ### Links -/

/-- How links are written. -/
structure LinkForm where
  /-- how many characters of an address are shown, or left out if the number is negative -/
  shown : Option Int := none
  /-- the values of attributes, which are safe in a page already -/
  relation : Option String := none
  target : Option String := none
  /-- further beginnings of addresses -/
  schemes : List String := []

namespace LinkForm

variable (form : LinkForm)

/-- The attributes of a link beside its address. -/
def attributes : String :=
  let written (name : String) (value : Option String) : String :=
    match value with
    | none | some "" => ""
    | some s => s!" {name}=\"{s}\""
  written "rel" form.relation ++ written "target" form.target

/-- An address as it is shown. -/
def label (address : String) : String :=
  match form.shown with
  | some n =>
    let kept := (if n < 0 then n + address.length else n).toNat
    if n < address.length then String.ofList (address.toList.take kept) ++ "..." else address
  | none => address

/-- A word as a link, if it is an address. -/
def link (middle : String) : String :=
  let cs := middle.toList
  let startsWith (s : String) : Bool := s.toList.isPrefixOf cs
  let behind := String.ofList (cs.drop 7)
  if addressPattern.matchesAll cs then
    let address := if startsWith "https://" || startsWith "http://" then middle
      else "https://" ++ middle
    s!"<a href=\"{address}\"{form.attributes}>{form.label middle}</a>"
  else if startsWith "mailto:" && mailPattern.matchesAll (cs.drop 7) then
    s!"<a href=\"{middle}\">{behind}</a>"
  else if cs.contains '@' && !startsWith "www." && !startsWith "@" && !cs.contains ':' &&
      mailPattern.matchesAll cs then
    s!"<a href=\"mailto:{middle}\">{middle}</a>"
  else
    form.schemes.foldl (fun made scheme =>
      if made ≠ scheme && scheme.toList.isPrefixOf made.toList then
        s!"<a href=\"{made}\"{form.attributes}>{made}</a>"
      else made) middle

/-- A text that is safe in a page already, with its addresses as links. -/
def withLinks (s : String) : String :=
  let pieces := s.toList.splitBy fun a b => isBlank a == isBlank b
  String.join (pieces.map fun piece =>
    if piece.any isBlank then String.ofList piece
    else
      let w := BareWord.of piece
      String.ofList w.head ++ form.link (String.ofList w.middle) ++ String.ofList w.tail)

end LinkForm

end MobileSchema
