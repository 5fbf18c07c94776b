import MobileSchema.Proofs.Source.Replacing

/-!
# Temporary neighbours

The temporary neighbour of a path is found by putting one more suffix behind the suffix of its last
name.  What counts as a suffix depends on where the dots of a name stand, but the outcome does not:
the neighbour is in the same directory, under the same name with `.tmp` at its end
(`Path.temporary?_eq_some_iff`).  So a path never is its own neighbour, and from a neighbour the
path can be told (`Path.temporary?_tells`).
-/

namespace MobileSchema

namespace Path

variable {p q neighbour : Path} {name : String}

/-- The path without its last name. -/
def parent (p : Path) : Path := { p with names := p.names.dropLast }

theorem parent_withFinalName (p : Path) (name : String) :
    (p.withFinalName name).parent = p.parent := by
  simp [parent, withFinalName]

/-- A path is the path of its last name in its parent. -/
theorem eq_withFinalName_iff :
    q = p.withFinalName name ↔ q.parent = p.parent ∧ q.finalName? = some name := by
  constructor
  · rintro rfl
    exact ⟨p.parent_withFinalName name, p.finalName?_withFinalName name⟩
  · rintro ⟨hparent, hname⟩
    obtain ⟨root, names⟩ := q
    obtain ⟨rfl, hnames⟩ : root = p.root ∧ names.dropLast = p.names.dropLast := by
      simpa [parent] using hparent
    rw [withFinalName, ← hnames, ← names_eq hname]

/-- Different names have different temporary names. -/
theorem append_tmp_inj {other : String} (h : name ++ ".tmp" = other ++ ".tmp") : name = other := by
  simpa using h

theorem append_tmp_ne (name : String) : name ++ ".tmp" ≠ name := by
  intro h
  have hlength := congrArg String.length h
  rw [String.length_append, show ".tmp".length = 4 from rfl] at hlength
  omega

/-- The neighbour stands beside the path, under a name with one more suffix. -/
theorem temporary?_eq_some_iff : p.temporary? = some neighbour ↔
    ∃ name, p.finalName? = some name ∧ neighbour.parent = p.parent ∧
      neighbour.finalName? = some (name ++ ".tmp") := by
  simp only [temporary?_eq, Option.map_eq_some_iff, eq_comm (b := neighbour), eq_withFinalName_iff]

/-- A path has no neighbour if it has no last name. -/
theorem temporary?_eq_none_iff : p.temporary? = none ↔ p.finalName? = none := by
  rw [temporary?_eq, Option.map_eq_none_iff]

/-- No path is its own temporary neighbour. -/
theorem temporary?_ne_self : p.temporary? ≠ some p := by
  intro h
  obtain ⟨name, hname, -, hlonger⟩ := temporary?_eq_some_iff.1 h
  rw [hname] at hlonger
  exact append_tmp_ne name (Option.some.inj hlonger).symm

/-- Two paths with one neighbour are one path. -/
theorem eq_of_temporary? (hp : p.temporary? = some neighbour) (hq : q.temporary? = some neighbour) :
    p = q := by
  obtain ⟨name, hname, hparent, hlonger⟩ := temporary?_eq_some_iff.1 hp
  obtain ⟨other, hother, hparent', hlonger'⟩ := temporary?_eq_some_iff.1 hq
  obtain rfl := append_tmp_inj (Option.some.inj (hlonger.symm.trans hlonger'))
  -- both are the path of this name in the parent of the neighbour
  have hp := eq_withFinalName_iff.2 ⟨hparent.symm, hname⟩
  have hq := eq_withFinalName_iff.2 ⟨hparent'.symm, hother⟩
  rw [hp, hq]

/-- A path with a last name has a temporary neighbour in its directory, under that name with one
more suffix.  It is another path, and it is the neighbour of no other path.  Nothing is written to a
path without a last name. -/
theorem temporary?_tells (p : Path) :
    match p.finalName? with
    | some name => ∃ neighbour, p.temporary? = some neighbour ∧ neighbour.parent = p.parent ∧
        neighbour.finalName? = some (name ++ ".tmp") ∧ neighbour ≠ p ∧
        ∀ q : Path, q.temporary? = some neighbour ↔ q = p
    | none => p.temporary? = none ∧ ∀ (files : FileTree) (codes : List Nat),
        files.writeText p codes = (files, some (.noFinalName p)) := by
  cases hname : p.finalName? with
  | none =>
    exact ⟨temporary?_eq_none_iff.2 hname, fun _ codes =>
      FileTree.writeText_of_finalName?_eq_none hname codes⟩
  | some name =>
    have htemporary : p.temporary? = some (p.withFinalName (name ++ ".tmp")) := by
      rw [temporary?_eq, hname, Option.map_some]
    refine ⟨_, htemporary, p.parent_withFinalName _, p.finalName?_withFinalName _, ?_, ?_⟩
    · intro heq
      rw [heq] at htemporary
      exact temporary?_ne_self htemporary
    · intro q
      constructor
      · exact fun hq => eq_of_temporary? hq htemporary
      · rintro rfl
        exact htemporary

end Path

end MobileSchema
