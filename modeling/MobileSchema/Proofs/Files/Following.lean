import Mathlib.Data.List.TakeWhile
import MobileSchema.Files.FileTree

/-!
# Where paths lead

A path is followed through directories only, so where it leads depends on nothing but the
directories.  A tree that still has the directories of another one (`KeepsDirectories`) leads a path
to the same place, if the other one leads it somewhere (`KeepsDirectories.place_of_ok`).

That says nothing about paths that lead nowhere, whose faults can differ.  But two paths that differ
in their last name only share their directory, so that both trees agree about one of them if the
other one leads somewhere (`KeepsDirectories.place_of_neighbour`).  A path and its temporary
neighbour are such a pair (`Path.temporary?_eq`), and they never lead to the same place
(`place_ne_of_temporary`).
-/

namespace MobileSchema

variable {t u : FileTree} {p : Path} {directory place names : List String} {name other : String}

/-! ### Names and suffixes -/

namespace Path

/-- A path with a last name ends in it. -/
theorem names_eq (h : p.finalName? = some name) : p.names = p.names.dropLast ++ [name] := by
  obtain ⟨before, hnames⟩ := List.getLast?_eq_some_iff.1 h
  rw [hnames, List.dropLast_concat]

theorem names_of_finalName?_eq_none (h : p.finalName? = none) : p.names = [] :=
  List.getLast?_eq_none_iff.1 h

/-- What is behind the last dot of a name, with that dot, is the end of the name. -/
theorem dot_extension_suffix {cs : List Char} (h : '.' ∈ cs) :
    '.' :: (cs.reverse.takeWhile (· != '.')).reverse <:+ cs := by
  -- read from its end, the name is its extension, the dot and the rest
  obtain ⟨rest, hrest⟩ : ∃ rest, cs.reverse.dropWhile (· != '.') = '.' :: rest := by
    have hne : cs.reverse.dropWhile (· != '.') ≠ [] := by
      intro hnil
      have hall := List.dropWhile_eq_nil_iff.1 hnil '.' (List.mem_reverse.2 h)
      exact absurd hall (by decide)
    have hdot := List.head_dropWhile_not (· != '.') hne
    have hhead : (cs.reverse.dropWhile (· != '.')).head hne = '.' := by simpa using hdot
    exact ⟨_, hhead ▸ (List.cons_head_tail hne).symm⟩
  have hsplit : cs.reverse.takeWhile (· != '.') ++ '.' :: rest = cs.reverse := by
    rw [← hrest, List.takeWhile_append_dropWhile]
  refine ⟨rest.reverse, List.reverse_inj.1 ?_⟩
  simpa using hsplit

/-- The suffix of a name is the end of the name. -/
theorem suffixOf_suffix (cs : List Char) : suffixOf cs <:+ cs := by
  rw [suffixOf]
  split
  case isTrue h =>
    simp only [Bool.and_eq_true, List.contains_eq_mem, decide_eq_true_eq] at h
    exact dot_extension_suffix h.2
  case isFalse => exact List.nil_suffix

/-- Another suffix behind the one that a name has. -/
theorem take_append_suffixOf (cs new : List Char) :
    cs.take (cs.length - (suffixOf cs).length) ++ (suffixOf cs ++ new) = cs ++ new := by
  rw [← List.append_assoc, List.suffix_iff_eq_append.1 (suffixOf_suffix cs)]

/-- The temporary neighbour of a path has one more suffix at the end of its last name. -/
theorem temporary?_eq (p : Path) :
    p.temporary? = p.finalName?.map fun name => p.withFinalName (name ++ ".tmp") := by
  cases h : p.finalName? with
  | none => rw [temporary?, withSuffix?, h, Option.map_none, Option.map_none]
  | some name =>
    have hsuffix : p.suffix = suffixOf name.toList := by rw [suffix, h]
    rw [temporary?, withSuffix?, h, hsuffix, Option.map_some, Option.map_some]
    show some (p.withFinalName (String.ofList (_ ++ (_ ++ _)))) = _
    rw [take_append_suffixOf, String.ofList_append, String.ofList_toList, String.ofList_toList]

/-- The null character is in a path just if it is in its neighbour: what is put behind the name has
none. -/
theorem hasNull_withFinalName (h : p.finalName? = some name) :
    (p.withFinalName (name ++ ".tmp")).hasNull = p.hasNull := by
  have hend : ".tmp".toList.contains '\x00' = false := by decide
  rw [hasNull, hasNull, names_eq h]
  simp only [withFinalName, List.any_append, List.any_cons, List.any_nil, String.toList_append,
    List.contains_append, hend, Bool.or_false]

theorem finalName?_withFinalName (p : Path) (name : String) :
    (p.withFinalName name).finalName? = some name := List.getLast?_concat

end Path

namespace FileTree

/-! ### Following names -/

/-- Names are followed from directories only. -/
theorem get?_of_follow (h : t.follow directory name = .ok place) :
    t.get? directory = some .directory := by
  rw [follow] at h
  split at h
  · cases h
  · cases h
  · assumption

/-- From a directory, it is the name alone that decides where it leads. -/
theorem follow_eq (ht : t.get? directory = some .directory)
    (hu : u.get? directory = some .directory) :
    u.follow directory name = t.follow directory name := by
  rw [follow, follow, ht, hu]

/-- A name leads to a place of that name, unless it is a double dot. -/
theorem eq_of_follow (h : t.follow directory name = .ok place) :
    place = if name = ".." then directory.dropLast else directory ++ [name] := by
  rw [follow, get?_of_follow h] at h
  simp only at h
  split at h
  · cases h
  · split at h <;> rename_i hname <;> rw [← Except.ok.inj h]
    · rw [if_pos hname]
    · rw [if_neg hname]

/-- The last name of a path is followed from where the others lead. -/
theorem walk_concat : t.walk place (names ++ [name]) =
    (t.walk place names).bind (t.follow · name) := by
  rw [walk, List.foldlM_append]
  simp only [List.foldlM_cons, List.foldlM_nil, bind_pure]
  rfl

/-! ### The same directories -/

/-- A tree in which the directories of another one are still there, seen from the same place. -/
structure KeepsDirectories (t u : FileTree) : Prop where
  home : u.home = t.home
  directory : ∀ names, t.get? names = some .directory → u.get? names = some .directory

theorem KeepsDirectories.trans {v : FileTree} (h : KeepsDirectories t u)
    (h' : KeepsDirectories u v) : KeepsDirectories t v where
  home := h'.home.trans h.home
  directory := fun names hnames => h'.directory names (h.directory names hnames)

theorem KeepsDirectories.start (h : KeepsDirectories t u) (root : PathRoot) :
    u.start root = t.start root := by
  cases root <;> simp only [FileTree.start, h.home]

/-- What leads somewhere still leads there. -/
theorem KeepsDirectories.walk_of_ok (h : KeepsDirectories t u)
    (hwalk : t.walk directory names = .ok place) : u.walk directory names = .ok place := by
  induction names generalizing directory with
  | nil => exact hwalk
  | cons name names ih =>
    rw [walk, List.foldlM_cons] at hwalk ⊢
    cases hfollow : t.follow directory name with
    | error fault => rw [hfollow] at hwalk; cases hwalk
    | ok next =>
      have hdirectory := get?_of_follow hfollow
      rw [follow_eq hdirectory (h.directory _ hdirectory), hfollow]
      rw [hfollow] at hwalk
      exact ih hwalk

/-- A path leads to a place just if it has no null character, is not too long, and its names can be
followed one by one. -/
theorem place_eq_ok_iff : t.place p = .ok place ↔
    p.hasNull = false ∧ p.text.utf8ByteSize ≤ pathLimit ∧
      t.walk (t.start p.root) p.names = .ok place := by
  rw [FileTree.place]
  cases p.hasNull with
  | true => simp
  | false =>
    by_cases hlong : pathLimit < p.text.utf8ByteSize
    · simp [hlong, Nat.not_le.2 hlong]
    · simp [hlong, Nat.not_lt.1 hlong]

/-- A path leads to the same place as long as the directories are kept. -/
theorem KeepsDirectories.place_of_ok (h : KeepsDirectories t u) (hplace : t.place p = .ok place) :
    u.place p = .ok place := by
  rw [place_eq_ok_iff] at hplace ⊢
  obtain ⟨hnull, hlength, hwalk⟩ := hplace
  rw [h.start]
  exact ⟨hnull, hlength, h.walk_of_ok hwalk⟩

/-! ### Paths with the same directory -/

/-- A path that leads somewhere leads to its directory first, and its last name leads on. -/
theorem exists_directory (hname : p.finalName? = some name) (h : t.place p = .ok place) :
    ∃ directory, t.walk (t.start p.root) p.names.dropLast = .ok directory ∧
      t.follow directory name = .ok place := by
  obtain ⟨-, -, hwalk⟩ := place_eq_ok_iff.1 h
  rw [Path.names_eq hname, walk_concat] at hwalk
  cases hdirectory : t.walk (t.start p.root) p.names.dropLast with
  | error fault => rw [hdirectory] at hwalk; cases hwalk
  | ok directory =>
    rw [hdirectory] at hwalk
    exact ⟨directory, rfl, hwalk⟩

/-- A neighbour that leads somewhere is in the directory of the path. -/
theorem exists_directory_of_neighbour (h : t.place (p.withFinalName other) = .ok place) :
    ∃ directory, t.walk (t.start p.root) p.names.dropLast = .ok directory ∧
      t.follow directory other = .ok place := by
  have hdirectory := exists_directory (p.finalName?_withFinalName other) h
  rw [Path.withFinalName, List.dropLast_concat] at hdirectory
  exact hdirectory

/-- Where a neighbour leads somewhere, trees with the same directories agree about a path. -/
theorem KeepsDirectories.place_of_neighbour (h : KeepsDirectories t u)
    (hother : t.place (p.withFinalName other) = .ok place) : u.place p = t.place p := by
  have hwalk : u.walk (u.start p.root) p.names = t.walk (t.start p.root) p.names := by
    rw [h.start]
    cases hname : p.finalName? with
    | none => rw [Path.names_of_finalName?_eq_none hname]; rfl
    | some name =>
      -- the neighbour was followed from the directory, so it is one in both trees
      obtain ⟨directory, hdirectory, hfollow⟩ := exists_directory_of_neighbour hother
      have hthere := get?_of_follow hfollow
      rw [Path.names_eq hname, walk_concat, walk_concat, hdirectory, h.walk_of_ok hdirectory]
      exact follow_eq hthere (h.directory _ hthere)
  rw [FileTree.place, FileTree.place, hwalk]

/-- A path and its temporary neighbour lead to different places. -/
theorem place_ne_of_temporary (hname : p.finalName? = some name) (h : t.place p = .ok place)
    (htemporary : t.place (p.withFinalName (name ++ ".tmp")) = .ok names) : place ≠ names := by
  obtain ⟨directory, hdirectory, hfollow⟩ := exists_directory hname h
  obtain ⟨same, hsame, hother⟩ := exists_directory_of_neighbour htemporary
  obtain rfl : directory = same := Except.ok.inj (hdirectory.symm.trans hsame)
  -- the longer name is neither the other one nor a double dot
  have hlong : (name ++ ".tmp").length = name.length + 4 := String.length_append _ _
  have hdots : name ++ ".tmp" ≠ ".." := by
    intro heq
    rw [heq] at hlong
    have : "..".length = 2 := by decide
    omega
  have hnames := eq_of_follow hother
  rw [if_neg hdots] at hnames
  rw [eq_of_follow hfollow, hnames]
  split
  · intro heq
    have hlength := congrArg List.length heq
    rw [List.length_dropLast, List.length_append, List.length_singleton] at hlength
    omega
  · intro heq
    have hsame := List.cons.inj (List.append_cancel_left heq)
    rw [← hsame.1] at hlong
    omega

end FileTree

end MobileSchema
