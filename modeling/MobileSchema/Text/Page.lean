import MobileSchema.Text.Entity

/-!
# Texts in pages

Texts that are made safe for a page, so that none of their characters is taken for a part of a tag,
and texts without the tags of a page.
-/

namespace MobileSchema

/-- A character as it is written in a page. -/
def safeChar : Char → List Char
  | '&' => "&amp;".toList
  | '<' => "&lt;".toList
  | '>' => "&gt;".toList
  | '\'' => "&#39;".toList
  | '"' => "&#34;".toList
  | c => [c]

/-- A text as it is written in a page. -/
def safeText (s : String) : String := String.ofList (s.toList.flatMap safeChar)

theorem safeChar_ne_bracket (c : Char) : '<' ∉ safeChar c ∧ '>' ∉ safeChar c := by
  unfold safeChar
  split
  all_goals simp
  all_goals exact ⟨Ne.symm ‹_›, Ne.symm ‹_›⟩

/-- A safe text has no tags in it. -/
theorem not_mem_safeText (s : String) : '<' ∉ (safeText s).toList := by
  simp only [safeText, String.toList_ofList, List.mem_flatMap, not_exists, not_and]
  exact fun c _ => (safeChar_ne_bracket c).1

/-- A text without what is between two marks, the marks included, at a bound on its length. -/
def withoutBetween (first last : List Char) : Nat → List Char → List Char
  | 0, cs => cs
  | fuel + 1, cs =>
    match splitAtFirst? first cs with
    | none => cs
    | some (before, behind) =>
      match splitAtFirst? last (first ++ behind) with
      | none => cs
      | some (_, rest) => withoutBetween first last fuel (before ++ rest)

/-- A text without comments and tags, with single spaces between its words. -/
def withoutTags (s : String) : String :=
  let cs := withoutBetween "<!--".toList "-->".toList s.length s.toList
  let cs := withoutBetween ['<'] ['>'] s.length cs
  let words := wordsFromLeft cs.length cs
  String.ofList (withoutEntities (List.intercalate [' '] words))

end MobileSchema
