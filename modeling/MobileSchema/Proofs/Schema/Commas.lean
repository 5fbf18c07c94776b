import MobileSchema.Schema.View

/-!
# Lists with commas

Writing the items of a list with the commas that `withCommas` gives them is joining them
(`join_withCommas`).  The recursion is on the list: an item has a comma exactly if another follows.

So items in front of others all have a comma (`withCommas_append`).  `CommasBetween` says without a
recursion what a list with commas looks like, and only what `withCommas` makes looks like that
(`commasBetween_iff`).
-/

namespace MobileSchema

variable {α β : Type} {items : List α} {pairs : List (WithComma α)}

@[simp] theorem withCommas_nil : withCommas ([] : List α) = [] := rfl

@[simp] theorem withCommas_singleton (x : α) : withCommas [x] = [⟨x, none⟩] := rfl

@[simp] theorem withCommas_cons_cons (x y : α) (ys : List α) :
    withCommas (x :: y :: ys) = ⟨x, some ","⟩ :: withCommas (y :: ys) := by
  simp [withCommas, List.mapIdx_cons]

/-- What is made of the items of a list does not move its commas. -/
theorem withCommas_map (f : α → β) (xs : List α) :
    withCommas (xs.map f) = (withCommas xs).map fun item => ⟨f item.data, item.comma⟩ := by
  induction xs with
  | nil => rfl
  | cons x xs ih =>
    cases xs with
    | nil => rfl
    | cons y ys =>
      rw [List.map_cons, List.map_cons, withCommas_cons_cons, withCommas_cons_cons, ← List.map_cons,
        ih, List.map_cons]

/-- Items that are written with a text for each comma are joined by that text. -/
theorem join_withCommas (write : α → String) {comma : Option String → String}
    (hnone : comma none = "") (xs : List α) :
    String.join ((withCommas xs).map fun item => write item.data ++ comma item.comma) =
      (comma (some ",")).intercalate (xs.map write) := by
  induction xs with
  | nil => simp
  | cons x xs ih =>
    cases xs with
    | nil => simp [hnone]
    | cons y ys =>
      rw [withCommas_cons_cons, List.map_cons, String.join_cons, ih]
      simp

/-- The text of an item and of the comma behind it, if it has one. -/
def WithComma.written (write : α → String) (pair : WithComma α) : String :=
  write pair.data ++ pair.comma.getD ""

/-- Items that are written one after another, each with its comma, are joined by commas. -/
theorem join_written_withCommas (write : α → String) (xs : List α) :
    String.join ((withCommas xs).map (·.written write)) = ",".intercalate (xs.map write) :=
  @join_withCommas _ write (·.getD "") rfl xs

/-! ### Items in front of others -/

/-- In front of other items all items have a comma. -/
theorem withCommas_append (xs : List α) {ys : List α} (h : ys ≠ []) :
    withCommas (xs ++ ys) = xs.map (⟨·, some ","⟩) ++ withCommas ys := by
  induction xs with
  | nil => rfl
  | cons x xs ih =>
    -- something follows the item, be it one of the first items or one of the others
    obtain ⟨z, zs, hrest⟩ := List.exists_cons_of_ne_nil (List.append_ne_nil_of_right_ne_nil xs h)
    rw [List.cons_append, hrest, withCommas_cons_cons, ← hrest, ih]
    rfl

theorem withCommas_concat (xs : List α) (x : α) :
    withCommas (xs ++ [x]) = xs.map (⟨·, some ","⟩) ++ [⟨x, none⟩] :=
  withCommas_append xs (List.cons_ne_nil x [])

/-! ### Commas between items -/

/-- Whether pairs are some items in their order, with a comma between neighbours and none at the
end. -/
structure CommasBetween (items : List α) (pairs : List (WithComma α)) : Prop where
  data : pairs.map (·.data) = items
  between : ∀ pair ∈ pairs.dropLast, pair.comma = some ","
  atEnd : ∀ pair ∈ pairs.getLast?, pair.comma = none

/-- The commas of a list are where they belong. -/
theorem commasBetween_withCommas (items : List α) : CommasBetween items (withCommas items) := by
  obtain rfl | ⟨first, last, rfl⟩ := List.eq_nil_or_concat items
  · exact ⟨rfl, nofun, nofun⟩
  · rw [List.concat_eq_append]
    refine ⟨map_data_withCommas _, ?_, ?_⟩
    · rw [withCommas_concat, List.dropLast_concat]
      intro pair hpair
      obtain ⟨x, -, rfl⟩ := List.mem_map.1 hpair
      rfl
    · rw [withCommas_concat, List.getLast?_concat]
      rintro pair ⟨rfl⟩
      rfl

/-- There is one way to set commas between items. -/
theorem commasBetween_iff : CommasBetween items pairs ↔ pairs = withCommas items := by
  constructor
  · rintro ⟨rfl, hbetween, hend⟩
    obtain rfl | ⟨first, last, rfl⟩ := List.eq_nil_or_concat pairs
    · rfl
    · rw [List.concat_eq_append] at hbetween hend ⊢
      rw [List.dropLast_concat] at hbetween
      have hfirst : ∀ pair ∈ first, id pair = ⟨pair.data, some ","⟩ :=
        fun pair hpair => by rw [← hbetween pair hpair, id]
      have hlast : last.comma = none := hend last List.getLast?_concat
      calc first ++ [last]
          = first.map (fun pair => ⟨pair.data, some ","⟩) ++ [⟨last.data, none⟩] := by
            rw [← List.map_congr_left hfirst, List.map_id, ← hlast]
        _ = withCommas (first.map (·.data) ++ [last.data]) := by
            rw [withCommas_concat, List.map_map]
            rfl
        _ = withCommas ((first ++ [last]).map (·.data)) := by
            rw [List.map_append, List.map_singleton]
  · rintro rfl
    exact commasBetween_withCommas items

end MobileSchema
