import Mathlib.Data.List.Perm.Basic

/-!
# Answers

A computation is refused or gives an answer.  A pass over a list makes one computation after
another.  If it is refused nowhere, its answer is known (`mapM_eq_ok`, `anyM_map_eq_ok`,
`filterM_map_eq_ok`); if some of it is refused, it comes to a refusal (`filterM_eq_error`); and if
it gives an answer, then so did each computation (`exists_mem_of_mapM_eq_ok`, `exists_map_of_mapM`).
-/

namespace MobileSchema

variable {α β ε : Type}

/-- One computation after another gives an answer where both do. -/
theorem bind_eq_ok {x : Except ε α} {f : α → Except ε β} {b : β} :
    x >>= f = .ok b ↔ ∃ a, x = .ok a ∧ f a = .ok b := by
  cases x <;> simp [bind, Except.bind]

theorem map_eq_ok {x : Except ε α} {f : α → β} {b : β} :
    x.map f = .ok b ↔ ∃ a, x = .ok a ∧ f a = b := by
  cases x <;> simp [Except.map]

/-! ### Passes that are refused nowhere -/

/-- A pass over a list that is refused nowhere comes to what it makes of each item. -/
theorem mapM_eq_ok {f : α → Except ε β} {make : α → β} {xs : List α}
    (h : ∀ x ∈ xs, f x = .ok (make x)) : xs.mapM f = .ok (xs.map make) := by
  induction xs with
  | nil => rfl
  | cons x xs ih =>
    rw [List.mapM_cons, h x (by simp), ih fun y hy => h y (by simp [hy])]
    rfl

/-- A search that is refused nowhere comes to what its test says. -/
theorem anyM_map_eq_ok {make : α → β} {f : β → Except ε Bool} {test : α → Bool}
    {xs : List α} (h : ∀ x ∈ xs, f (make x) = .ok (test x)) :
    (xs.map make).anyM f = .ok (xs.any test) := by
  induction xs with
  | nil => rfl
  | cons x xs ih =>
    -- the search ends at the first item that passes
    rw [List.map_cons, List.anyM, h x (by simp), List.any_cons]
    cases test x with
    | true => rfl
    | false => exact ih fun y hy => h y (by simp [hy])

/-- A selection that is refused nowhere comes to what its test lets through. -/
theorem filterM_map_eq_ok {make : α → β} {f : β → Except ε Bool} {test : α → Bool}
    (h : ∀ x, f (make x) = .ok (test x)) (xs : List α) :
    (xs.map make).filterM f = .ok ((xs.filter test).map make) := by
  -- what is let through comes in front of what was, and all of it is turned around at the end
  have haux : ∀ done, (xs.map make).filterAuxM f done =
      .ok (((xs.filter test).map make).reverse ++ done) := by
    induction xs with
    | nil => exact fun _ => rfl
    | cons x xs ih =>
      intro done
      rw [List.map_cons, List.filterAuxM, h x]
      show (xs.map make).filterAuxM f _ = _
      rw [ih, List.filter_cons]
      cases test x <;> simp
  rw [List.filterM, haux]
  show Except.ok _ = _
  rw [List.append_nil, List.reverse_reverse]

/-! ### Passes that are refused -/

/-- A selection that is refused for some items is refused for one of them. -/
theorem filterM_eq_error {f : α → Except ε Bool} {xs : List α}
    (h : ∃ x ∈ xs, ∃ e, f x = .error e) :
    ∃ x ∈ xs, ∃ e, f x = .error e ∧ xs.filterM f = .error e := by
  have haux : ∀ done, ∃ x ∈ xs, ∃ e, f x = .error e ∧ xs.filterAuxM f done = .error e := by
    induction xs with
    | nil => simp at h
    | cons x xs ih =>
      intro done
      rw [List.filterAuxM]
      cases hx : f x with
      | error e => exact ⟨x, by simp, e, hx, rfl⟩
      | ok b =>
        -- the refusal is further on
        have hrest : ∃ y ∈ xs, ∃ e, f y = .error e := by simpa [hx] using h
        obtain ⟨y, hy, e, hye, herror⟩ := ih hrest (cond b (x :: done) done)
        exact ⟨y, by simp [hy], e, hye, herror⟩
  obtain ⟨x, hx, e, hxe, herror⟩ := haux []
  refine ⟨x, hx, e, hxe, ?_⟩
  rw [List.filterM, herror]
  rfl

/-! ### Passes that give an answer -/

theorem exists_mem_of_mapM_eq_ok {f : α → Except ε β} {xs : List α} {ys : List β}
    (h : xs.mapM f = .ok ys) : ∀ x ∈ xs, ∃ y ∈ ys, f x = .ok y := by
  induction xs generalizing ys with
  | nil => simp
  | cons x xs ih =>
    rw [List.mapM_cons, bind_eq_ok] at h
    obtain ⟨y, hy, h⟩ := h
    obtain ⟨zs, hzs, h⟩ := bind_eq_ok.1 h
    cases h
    intro z hz
    rcases List.mem_cons.1 hz with rfl | hz
    · exact ⟨y, by simp, hy⟩
    · obtain ⟨w, hw, hfz⟩ := ih hzs z hz
      exact ⟨w, by simp [hw], hfz⟩

/-- Where the results of a pass are empty together, each of them is empty. -/
theorem eq_ok_nil_of_mapM {f : α → Except ε (List β)} {xs : List α}
    {ys : List (List β)} (h : xs.mapM f = .ok ys) (hys : ys.flatten = []) :
    ∀ x ∈ xs, f x = .ok [] := by
  intro x hx
  obtain ⟨y, hy, hfx⟩ := exists_mem_of_mapM_eq_ok h x hx
  rw [hfx, List.flatten_eq_nil_iff.1 hys y hy]

/-- A pass that is not refused comes to what some function makes of each item. -/
theorem exists_map_of_mapM [Inhabited β] {f : α → Except ε β} {xs : List α} {ys : List β}
    (h : xs.mapM f = .ok ys) :
    ∃ make : α → β, (∀ x ∈ xs, f x = .ok (make x)) ∧ ys = xs.map make := by
  have hmake : ∀ x ∈ xs, f x = .ok ((f x).toOption.getD default) := by
    intro x hx
    obtain ⟨y, -, hy⟩ := exists_mem_of_mapM_eq_ok h x hx
    rw [hy]
    rfl
  rw [mapM_eq_ok hmake] at h
  exact ⟨_, hmake, (Except.ok.inj h).symm⟩

/-- A pass over a list in another order comes to the same items. -/
theorem mapM_perm [Inhabited β] {f : α → Except ε β} {xs ys : List α} (hperm : xs.Perm ys)
    {zs : List β} (h : xs.mapM f = .ok zs) : ∃ ws, ys.mapM f = .ok ws ∧ zs.Perm ws := by
  obtain ⟨make, hmake, rfl⟩ := exists_map_of_mapM h
  exact ⟨_, mapM_eq_ok fun y hy => hmake y (hperm.mem_iff.2 hy), hperm.map make⟩

end MobileSchema
