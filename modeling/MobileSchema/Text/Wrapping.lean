import MobileSchema.Text.Letter
import MobileSchema.Text.Search

/-!
# Wrapping lines

A line that is too long is broken into several: between words, behind hyphens inside of words, and,
if a word is longer than a line, within the word.
-/

namespace MobileSchema

/-! ### Chunks -/

/-- Whether a character is in a word. -/
def isWordChar (c : Char) : Bool := isAlphanumeric c || c = '_'

/-- Whether a character is a letter for hyphens. -/
def isHyphenLetter (c : Char) : Bool := isWordChar c && !isDigit c

/-- Whether a dash can stand behind a character. -/
def isBeforeDash (c : Char) : Bool := isWordChar c || "!\"'&.,?".toList.contains c

/-- Whether a character is white space between words. -/
def isWordGap (c : Char) : Bool := "\t\n\x0b\x0c\r ".toList.contains c

/-- The number of hyphens of a dash between words at the start of a text, if there is one; `before`
has been read, last character first. -/
def dashLength? (before cs : List Char) : Option Nat :=
  let hyphens := (cs.takeWhile (· = '-')).length
  if 2 ≤ hyphens && before.head?.any isBeforeDash && (cs.drop hyphens).head?.any isWordChar then
    some hyphens
  else none

/-- Whether a word can be broken behind a hyphen; `before` is what stands before the hyphen, last
character first, and `behind` what stands behind it. -/
def breaksAtHyphen (before behind : List Char) : Bool :=
  let hasWord := match before with
    | a :: '-' :: b :: _ => isHyphenLetter a && isHyphenLetter b
    | a :: b :: _ => isHyphenLetter a && isHyphenLetter b
    | _ => false
  let goesOn := match behind with
    | a :: '-' :: b :: _ => isHyphenLetter a && isHyphenLetter b
    | a :: b :: _ => isHyphenLetter a && isHyphenLetter b
    | _ => false
  hasWord && goesOn

/-- The chunk that a word begins with, of which `chunk` has been read, last character first;
`before` is what stands before the rest of it. -/
def wordChunk (before chunk : List Char) : List Char → List Char
  | [] => chunk.reverse
  | c :: cs =>
    if chunk ≠ [] && (isWordGap c || (dashLength? before (c :: cs)).isSome) then chunk.reverse
    else if chunk ≠ [] && c = '-' && breaksAtHyphen before cs then (c :: chunk).reverse
    else wordChunk (c :: before) (c :: chunk) cs

/-- The chunk that a text begins with. -/
def leadingChunk (breaksHyphens : Bool) (before cs : List Char) : List Char :=
  if cs.head?.any isWordGap then cs.takeWhile isWordGap
  else if !breaksHyphens then cs.takeWhile (!isWordGap ·)
  else match dashLength? before cs with
    | some n => cs.take n
    | none => wordChunk before [] cs

/-- The chunks of a text, at a bound on its length; `before` has been read, last character first. -/
def chunksAt (breaksHyphens : Bool) : Nat → List Char → List Char → List (List Char)
  | 0, _, _ => []
  | fuel + 1, before, cs =>
    if cs = [] then []
    else
      let chunk := leadingChunk breaksHyphens before cs
      chunk :: chunksAt breaksHyphens fuel (chunk.reverse ++ before) (cs.drop chunk.length)

/-- The chunks of a text: words, parts of words, dashes and white space. -/
def chunksOf (breaksHyphens : Bool) (cs : List Char) : List (List Char) :=
  chunksAt breaksHyphens cs.length [] cs

/-! ### Lines -/

/-- How lines are wrapped. -/
structure Wrapping where
  width : Nat
  breaksWords : Bool
  /-- whether words that are too long for a line are broken behind hyphens -/
  prefersHyphens : Bool

/-- The first of the chunks that fit into a line together, and the rest. -/
def fittingChunks (width : Nat) : List (List Char) → List (List Char) × List (List Char)
  | [] => ([], [])
  | chunk :: chunks =>
    if chunk.length ≤ width then
      let (line, rest) := fittingChunks (width - chunk.length) chunks
      (chunk :: line, rest)
    else ([], chunk :: chunks)

namespace Wrapping

variable (w : Wrapping)

/-- The place where a chunk is broken that is too long for some space. -/
def breakPlace (space : Nat) (chunk : List Char) : Nat :=
  match splitAtLast? ['-'] (chunk.take space) with
  | some (before, _) =>
    if w.prefersHyphens && before.any (· ≠ '-') then before.length + 1 else space
  | none => space

/-- A line with a part of the chunk behind it if that is longer than any line, and the rest. -/
def addLongChunk (line chunks : List (List Char)) : List (List Char) × List (List Char) :=
  match chunks with
  | [] => (line, [])
  | chunk :: rest =>
    if chunk.length ≤ w.width then (line, chunks)
    else if w.breaksWords then
      let place := w.breakPlace (w.width - line.flatten.length) chunk
      (line ++ [chunk.take place], chunk.drop place :: rest)
    else if line = [] then ([chunk], rest)
    else (line, chunks)

/-- The lines of chunks, at a bound on their number; `isFirst` says that no line is before them. -/
def linesAt : Nat → Bool → List (List Char) → List (List Char)
  | 0, _, _ => []
  | _, _, [] => []
  | fuel + 1, isFirst, chunk :: rest =>
    let chunks := if !isFirst && chunk.all isBlank then rest else chunk :: rest
    let (line, rest) := fittingChunks w.width chunks
    let (line, rest) := w.addLongChunk line rest
    let line := if (line.getLast?).any (·.all isBlank) then line.dropLast else line
    if line = [] then linesAt fuel isFirst rest
    else line.flatten :: linesAt fuel false rest

/-- The lines that a line is broken into. -/
def lines (breaksHyphens : Bool) (cs : List Char) : List (List Char) :=
  w.linesAt (2 * cs.length + 2) true (chunksOf breaksHyphens cs)

end Wrapping

end MobileSchema
