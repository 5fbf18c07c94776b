import MobileSchema.Template.Filter.Json
import MobileSchema.Template.Filter.Pretty
import MobileSchema.Text.Link

/-!
# Filters that lay texts out

Texts in lines of a width, with links in them, and objects as texts on several lines.
-/

namespace MobileSchema.Template

/-! ### Lines -/

/-- A width for lines, as a number of characters; it can be a fraction, where no word has to be
broken. -/
def lineWidth (o : Object) : Act Nat := do
  if ← isInOrder .lessOrEqual o (.number 0) then refuse (.noWidth (← shownOf o))
  match o, o.integer? with
  | .fraction x, _ => return ((truncated? x).getD wordBound).toNat
  | _, n => return (n.getD 0).toNat

/-- The lines that a line is broken into. -/
def wrappedLines (b : Bound) (line : List Char) : Act (List String) := do
  let given := (b.find? "width").getD (.number 79)
  let width ← lineWidth given
  let onHyphens := (b.find? "break_on_hyphens").getD (.bool true)
  let breaksHyphens := onHyphens matches .bool true
  let wrapping : Wrapping := {
    width := max width 1
    breaksWords := ← isSetOr b "break_long_words" true
    prefersHyphens := ← truthOf onHyphens }
  let isLong (chunk : List Char) : Bool := width < chunk.length
  if given matches .fraction _ then
    if wrapping.breaksWords && 1 ≤ width && (chunksOf breaksHyphens line).any isLong then
      refuse .sliceBound
  return (wrapping.lines breaksHyphens line).map String.ofList

/-- A text with its lines broken at a width. -/
def wrapFilter : Filter :=
  .atDesk "do_wordwrap" "environment" "s"
    ["width", "break_long_words", "wrapstring", "break_on_hyphens"] fun _ o b => do
      let separator : Object := match b.find "wrapstring" with
        | .none => .text "\n"
        | separator => separator
      let some between ← textIn? separator | lackOf separator "join"
      let some s ← textIn? o | lackOf o "splitlines"
      let lines ← (linesOf false s.toList).mapM (wrappedLines b)
      let written (line : String) : String := match separator with
        | .markup _ => safeText line
        | _ => line
      return textLike separator (between.intercalate (lines.map fun parts =>
        between.intercalate (parts.map written)))

/-! ### Links -/

/-- The words that an argument of a filter gives, if it gives any. -/
def wordsOf (o : Object) : Act (List String) := do
  if !(← truthOf o) then return []
  match ← textIn? o with
  | some s => return (wordsFromLeft s.length s.toList).map String.ofList
  | none => lackOf o "split"

/-- Checks the beginning of an address. -/
def schemeOf (o : Object) : Act String := do
  let some s ← textIn? o | refuse (.notText
    s!"expected string or bytes-like object, got {quoted (← typeOf o)}")
  let isPart (c : Char) : Bool := isWordChar c || c = '.' || c = '+' || c = '-'
  let name := s.toList.takeWhile isPart
  let isScheme := 2 ≤ name.length &&
    [":", ":/", "://"].contains (String.ofList (s.toList.drop name.length))
  if isScheme then return s else refuse (.filter (.addressScheme (← shownOf o)))

/-- The form in which links are shown that are longer than a limit, and whether the limit is a
fraction. -/
def shownLimit (o : Object) : Option Int × Bool :=
  match o, o.integer? with
  | .fraction x, _ => ((floorOf? x).elim (some wordBound) some, true)
  | _, n => (n, false)

/-- A text with links in it. -/
def linksFilter : Filter :=
  .atDesk "do_urlize" "eval_ctx" "value"
    ["trim_url_limit", "nofollow", "target", "rel", "extra_schemes"] fun desk o b => do
      let given ← wordsOf (b.find "rel")
      let words := given ++ (if ← isSetOr b "nofollow" false then ["nofollow"] else [])
      let words := (words ++ ["noopener"]).eraseDups.mergeSort fun a b => a ≤ b
      let extra := b.find "extra_schemes"
      let schemes ← match extra with
        | .none => pure []
        | extra => do (← itemsOf extra).mapM schemeOf
      let text ← safeOf o
      let target ← do
        let target := b.find "target"
        if ← truthOf target then pure (some (← safeOf target)) else pure none
      let form : LinkForm := {
        relation := some (safeText (" ".intercalate words)), target
        schemes := if extra matches .stream .. then [] else schemes }
      let limit := b.find "trim_url_limit"
      let (shown, isFraction) := shownLimit limit
      let whole := form.withLinks text
      let links := { form with shown }.withLinks text
      if isFraction && links ≠ whole then refuse .sliceBound
      if shown.isNone && !(limit matches .none) && { form with shown := some 0 }.withLinks text ≠ whole
        then refuse (.notOrdered ">" "int" (← typeOf limit))
      return if desk.escapes then .markup links else .text links

/-- The filters that lay texts out. -/
def layoutFilters : List (String × Filter) :=
  [("wordwrap", wrapFilter), ("urlize", linksFilter), ("tojson", jsonFilter),
    ("pprint", .unary "do_pprint" "value" fun o => do return .text (← prettyOf o))]

end MobileSchema.Template
