import MobileSchema.Proofs.Files.Following
import MobileSchema.Source.Writing

/-!
# Files are replaced as a whole

A source is written to a file through the file's temporary neighbour.  Whatever stands in the file
system before, there are only two ways in which that can end for a text: the file has the whole text
and nothing else is different (`Replaced`), or the file is as it was, and all that can be different
is that a file which stood at the neighbour is gone (`Kept`).  The first comes about just if a file
can stand at the path and at its neighbour (`CanReplace`).  A source with halves of surrogate pairs
in it is no text and has no bytes.  It never gets to the file, but since it is refused only when the
neighbour is open, and not by the files, an empty file can stay behind there (`Spoilt`).

Each operation is described once by when it succeeds and what it leaves behind (`HasRoom`), and the
ways to end are put together from these.  The point at which they could go wrong is the clean-up: it
has to find the neighbour where it was written, and must not fail there.  That is so because the
directories are the same before and behind the write.

Nothing of this depends on how a source is rendered, so the main result,
`RenderRequest.writeFile_atomic`, speaks of the templates and of everything else that could render
sources.
-/

namespace MobileSchema

namespace FileTree

variable {t u : FileTree} {p path temporary : Path} {names other : List String} {name : String}
  {content : ByteArray} {error : FileError} {codes : List Nat}

/-! ### Room for a file -/

/-- A path leads to a place where a file can be put. -/
structure HasRoom (t : FileTree) (p : Path) (names : List String) : Prop where
  place : t.place p = .ok names
  notDirectory : t.get? names ≠ some .directory

/-- The working directory and what is above it are directories. -/
theorem HasRoom.not_prefix (h : t.HasRoom p names) : ¬ names <+: t.home := by
  intro hprefix
  refine h.notDirectory ?_
  rw [get?, if_pos hprefix]

theorem HasRoom.get?_insert (h : t.HasRoom p names) :
    (t.insert names (.file content)).get? names = some (.file content) :=
  get?_insert_self t h.not_prefix _

theorem HasRoom.get?_erase (h : t.HasRoom p names) : (t.erase names).get? names = none :=
  get?_erase_self t h.not_prefix

/-- Writing a file where there is room for it makes and removes no directory. -/
theorem HasRoom.keeps_insert (h : t.HasRoom p names) (content : ByteArray) :
    KeepsDirectories t (t.insert names (.file content)) where
  home := rfl
  directory := by
    intro other hother
    rw [get?_insert_of_ne t]
    · exact hother
    · rintro rfl
      exact h.notDirectory hother

/-- Removing a file removes no directory. -/
theorem HasRoom.keeps_erase (h : t.HasRoom p names) : KeepsDirectories t (t.erase names) where
  home := rfl
  directory := by
    intro other hother
    rw [get?_erase_of_ne t]
    · exact hother
    · rintro rfl
      exact h.notDirectory hother

/-- A file that was written can be written again. -/
theorem HasRoom.insert (h : t.HasRoom p names) : (t.insert names (.file content)).HasRoom p names where
  place := (h.keeps_insert content).place_of_ok h.place
  notDirectory := by rw [h.get?_insert]; exact nofun

/-! ### The operations -/

/-- Where there is room, a write leaves its file and changes nothing else. -/
theorem write_of_hasRoom (h : t.HasRoom p names) :
    t.write p content = .ok (t.insert names (.file content)) := by
  simp only [write, h.place]
  split
  · rename_i hdirectory
    exact absurd hdirectory h.notDirectory
  · rfl

theorem write_of_not (h : ∀ names, ¬ t.HasRoom p names) (content : ByteArray) :
    ∃ error, t.write p content = .error error := by
  rw [write]
  split
  · exact ⟨_, rfl⟩
  · rename_i names hplace
    split
    · exact ⟨_, rfl⟩
    · rename_i hnot
      exact absurd ⟨hplace, hnot⟩ (h names)

/-- A file that is renamed to where there is room is there and no longer where it was. -/
theorem rename_of_hasRoom (hdots : path.finalName? ≠ some "..") (hplace : t.place p = .ok names)
    (hfile : t.get? names = some (.file content)) (h : t.HasRoom path other) :
    t.rename p path = .ok ((t.erase names).insert other (.file content)) := by
  simp only [rename, if_neg hdots, hplace, h.place, hfile]
  split
  · rename_i hdirectory
    exact absurd hdirectory h.notDirectory
  · rfl

theorem rename_of_not (h : path.finalName? = some ".." ∨ ∀ other, ¬ t.HasRoom path other)
    (p : Path) : ∃ error, t.rename p path = .error error := by
  rw [rename]
  split
  · exact ⟨_, rfl⟩
  · rename_i hdots
    split
    · exact ⟨_, rfl⟩
    · exact ⟨_, rfl⟩
    · rename_i old new _ hplace
      split
      · exact ⟨_, rfl⟩
      · exact ⟨_, rfl⟩
      · split
        · exact ⟨_, rfl⟩
        · rename_i hnot
          exact absurd ⟨hplace, hnot⟩ (h.resolve_left hdots new)

/-- Cleaning up removes the temporary file, and the error that it was for is left. -/
theorem cleanUp_of_hasRoom (h : t.HasRoom p names) :
    t.cleanUp p error = (t.erase names, some error) := by
  have hremove : t.remove p = .ok (t.erase names) := by
    simp only [remove, h.place]
    split
    · rename_i hdirectory
      exact absurd hdirectory h.notDirectory
    · rfl
  rw [cleanUp, hremove]

theorem cleanUp_of_not (h : ∀ names, ¬ t.HasRoom p names) (error : FileError) :
    ∃ last, t.cleanUp p error = (t, some last) := by
  have hremove : t.remove p = .ok t ∨ ∃ last, t.remove p = .error last := by
    rw [remove]
    split
    · exact .inl rfl
    · exact .inr ⟨_, rfl⟩
    · rename_i names hplace
      split
      · exact .inr ⟨_, rfl⟩
      · rename_i hnot
        exact absurd ⟨hplace, hnot⟩ (h names)
  rw [cleanUp]
  obtain hok | ⟨last, hfault⟩ := hremove
  · rw [hok]
    exact ⟨error, rfl⟩
  · rw [hfault]
    exact ⟨last, rfl⟩

/-! ### Ways to end -/

/-- Whether a file can stand at a path and at its temporary neighbour, and the path has a name of
its own. -/
structure CanReplace (t : FileTree) (path temporary : Path) : Prop where
  temporary : ∃ names, t.HasRoom temporary names
  target : ∃ names, t.HasRoom path names
  named : path.finalName? ≠ some ".."

/-- A file was replaced: its path leads to the content, nothing stands at the neighbour, and all
other places are as they were. -/
structure Replaced (before after : FileTree) (path temporary : Path) (content : ByteArray) :
    Prop where
  read_path : after.read path = .ok content
  find_temporary : after.find temporary = .error .notFound
  others : ∀ names, before.place path ≠ .ok names → before.place temporary ≠ .ok names →
    after.get? names = before.get? names
  home : after.home = before.home

/-- A file was kept: its path leads to what it led to, no file stands at the neighbour, all other
places are as they were and no directory was made. -/
structure Kept (before after : FileTree) (path temporary : Path) : Prop where
  find_path : after.find path = before.find path
  find_temporary : ∀ content, after.find temporary ≠ .ok (.file content)
  others : ∀ names, before.place temporary ≠ .ok names → after.get? names = before.get? names
  directories : ∀ names, after.get? names = some .directory → before.get? names = some .directory
  home : after.home = before.home

/-- A file was kept, and an empty file was left at the neighbour: the path leads to what it led to,
all other places are as they were and no directory was made. -/
structure Spoilt (before after : FileTree) (path temporary : Path) : Prop where
  find_path : after.find path = before.find path
  read_temporary : after.read temporary = .ok .empty
  others : ∀ names, before.place temporary ≠ .ok names → after.get? names = before.get? names
  directories : ∀ names, after.get? names = some .directory → before.get? names = some .directory
  home : after.home = before.home

/-- Where no file can stand at the neighbour, nothing is done. -/
theorem kept_of_not (h : ∀ names, ¬ t.HasRoom p names) : Kept t t path p where
  find_path := rfl
  find_temporary := by
    intro content hfind
    rw [find] at hfind
    split at hfind
    · cases hfind
    · rename_i names hplace
      refine h names ⟨hplace, ?_⟩
      intro hdirectory
      rw [hdirectory] at hfind
      cases hfind
  others := fun _ _ => rfl
  directories := fun _ => id
  home := rfl

/-! ### Behind the write -/

/-- Writing and taking away again changes no other place. -/
theorem get?_erase_insert (h : other ≠ names) :
    ((t.insert names (.file content)).erase names).get? other = t.get? other := by
  rw [get?_erase_of_ne _ h, get?_insert_of_ne _ h]

theorem HasRoom.keeps_erase_insert (h : t.HasRoom p names) :
    KeepsDirectories t ((t.insert names (.file content)).erase names) :=
  (h.keeps_insert content).trans h.insert.keeps_erase

section Neighbour

variable (hname : path.finalName? = some name)
  (h : t.HasRoom (path.withFinalName (name ++ ".tmp")) names)
include hname h

/-- A file can stand at the path behind the write if it could stand there before. -/
theorem hasRoom_insert_iff (content : ByteArray) :
    (t.insert names (.file content)).HasRoom path other ↔ t.HasRoom path other := by
  have hplace := (h.keeps_insert content).place_of_neighbour h.place
  have hget (htarget : t.place path = .ok other) :
      (t.insert names (.file content)).get? other = t.get? other :=
    get?_insert_of_ne t (place_ne_of_temporary hname htarget h.place) _
  constructor
  · rintro ⟨htarget, hnot⟩
    rw [hplace] at htarget
    exact ⟨htarget, hget htarget ▸ hnot⟩
  · rintro ⟨htarget, hnot⟩
    exact ⟨hplace.trans htarget, (hget htarget).symm ▸ hnot⟩

/-- The file is kept if the neighbour is written and taken away again. -/
theorem kept_of_cleanUp (content : ByteArray) :
    Kept t ((t.insert names (.file content)).erase names) path
      (path.withFinalName (name ++ ".tmp")) where
  find_path := by
    rw [find, find, h.keeps_erase_insert.place_of_neighbour h.place]
    cases htarget : t.place path with
    | error fault => rfl
    | ok target =>
      -- the path leads to another place than the neighbour, where nothing was done
      show Option.elim _ _ _ = Option.elim _ _ _
      rw [get?_erase_insert (place_ne_of_temporary hname htarget h.place)]
  find_temporary := by
    intro other hfind
    rw [find, h.keeps_erase_insert.place_of_ok h.place] at hfind
    simp only [h.insert.get?_erase, Option.elim_none] at hfind
    cases hfind
  others := by
    intro other hother
    refine get?_erase_insert ?_
    rintro rfl
    exact hother h.place
  directories := by
    intro other hdirectory
    by_cases hsame : other = names
    · rw [hsame, h.insert.get?_erase] at hdirectory
      cases hdirectory
    · rw [get?_erase_insert hsame] at hdirectory
      exact hdirectory
  home := rfl

/-- The file is left empty at the neighbour if that is opened and then nothing is written. -/
theorem spoilt_of_insert :
    Spoilt t (t.insert names (.file .empty)) path (path.withFinalName (name ++ ".tmp")) where
  find_path := by
    rw [find, find, (h.keeps_insert .empty).place_of_neighbour h.place]
    cases htarget : t.place path with
    | error fault => rfl
    | ok target =>
      -- the path leads to another place than the neighbour
      show Option.elim _ _ _ = Option.elim _ _ _
      rw [get?_insert_of_ne _ (place_ne_of_temporary hname htarget h.place)]
  read_temporary := by
    rw [read, find, (h.keeps_insert .empty).place_of_ok h.place]
    simp only [h.get?_insert, Option.elim_some]
  others := by
    intro other hother
    refine get?_insert_of_ne _ ?_ _
    rintro rfl
    exact hother h.place
  directories := by
    intro other hdirectory
    by_cases hsame : other = names
    · rw [hsame, h.get?_insert] at hdirectory
      cases hdirectory
    · rwa [get?_insert_of_ne _ hsame] at hdirectory
  home := rfl

/-- The file is replaced if the neighbour is written and moved to its place. -/
theorem replaced_of_rename (htarget : t.HasRoom path other) :
    Replaced t (((t.insert names (.file content)).erase names).insert other (.file content)) path
      (path.withFinalName (name ++ ".tmp")) content := by
  have hne : other ≠ names := place_ne_of_temporary hname htarget.place h.place
  have hroom : ((t.insert names (.file content)).erase names).HasRoom path other := by
    refine ⟨(h.keeps_erase_insert.place_of_neighbour h.place).trans htarget.place, ?_⟩
    rw [get?_erase_insert hne]
    exact htarget.notDirectory
  -- neither step took a directory away, so both paths still lead where they led
  have hkeeps := h.keeps_erase_insert.trans (hroom.keeps_insert content)
  refine ⟨?_, ?_, ?_, rfl⟩
  · rw [read, find, hkeeps.place_of_ok htarget.place]
    simp only [hroom.get?_insert, Option.elim_some]
  · rw [find, hkeeps.place_of_ok h.place]
    simp only [get?_insert_of_ne _ hne.symm, h.insert.get?_erase, Option.elim_none]
  · intro place hpath htemporary
    have hplace : place ≠ other := by
      rintro rfl
      exact hpath htarget.place
    have hneighbour : place ≠ names := by
      rintro rfl
      exact htemporary h.place
    rw [get?_insert_of_ne _ hplace, get?_erase_insert hneighbour]

end Neighbour

/-! ### Replacing a file -/

/-- Where a file can stand at both places, the file is replaced. -/
theorem replace_of_canReplace (hname : path.finalName? = some name)
    (h : t.CanReplace path (path.withFinalName (name ++ ".tmp"))) (content : ByteArray) :
    ∃ after, t.replace path (path.withFinalName (name ++ ".tmp")) content = (after, none) ∧
      Replaced t after path (path.withFinalName (name ++ ".tmp")) content := by
  obtain ⟨⟨names, hneighbour⟩, ⟨other, htarget⟩, hnamed⟩ := h
  have hrename := rename_of_hasRoom hnamed hneighbour.insert.place hneighbour.get?_insert
    ((hasRoom_insert_iff hname hneighbour content).2 htarget)
  refine ⟨_, ?_, replaced_of_rename hname hneighbour htarget⟩
  rw [replace, write_of_hasRoom hneighbour]
  simp only [hrename]

/-- Where a file cannot stand at both places, the file is kept and an error is left. -/
theorem replace_of_not (hname : path.finalName? = some name)
    (h : ¬ t.CanReplace path (path.withFinalName (name ++ ".tmp"))) (content : ByteArray) :
    ∃ after error,
      t.replace path (path.withFinalName (name ++ ".tmp")) content = (after, some error) ∧
        Kept t after path (path.withFinalName (name ++ ".tmp")) := by
  by_cases hneighbour : ∃ names, t.HasRoom (path.withFinalName (name ++ ".tmp")) names
  · -- the neighbour is written, and taken away after the refusal
    obtain ⟨names, hneighbour⟩ := hneighbour
    -- what stands in the way of the path stood there before the write
    have hrefused : path.finalName? = some ".." ∨
        ∀ other, ¬ (t.insert names (.file content)).HasRoom path other := by
      by_cases hnamed : path.finalName? = some ".."
      · exact .inl hnamed
      · refine .inr fun other htarget => h ⟨⟨names, hneighbour⟩, ⟨other, ?_⟩, hnamed⟩
        exact (hasRoom_insert_iff hname hneighbour content).1 htarget
    obtain ⟨error, hrename⟩ := rename_of_not hrefused (path.withFinalName (name ++ ".tmp"))
    refine ⟨_, error, ?_, kept_of_cleanUp hname hneighbour content⟩
    rw [replace, write_of_hasRoom hneighbour]
    simp only [hrename]
    exact cleanUp_of_hasRoom hneighbour.insert
  · -- nothing is written and nothing is taken away
    have hnone := not_exists.1 hneighbour
    obtain ⟨error, hwrite⟩ := write_of_not hnone content
    obtain ⟨last, hcleanUp⟩ := cleanUp_of_not hnone error
    refine ⟨t, last, ?_, kept_of_not hnone⟩
    rw [replace, hwrite]
    exact hcleanUp

/-- A text without bytes never gets to the file.  Its neighbour is left empty where it can be
opened. -/
theorem spoil_ends (hname : path.finalName? = some name) (codes : List Nat) :
    ∃ after, t.spoil (path.withFinalName (name ++ ".tmp")) codes = (after, some (.halved codes)) ∧
        Spoilt t after path (path.withFinalName (name ++ ".tmp")) ∨
      ∃ error, t.spoil (path.withFinalName (name ++ ".tmp")) codes = (after, some (.file error)) ∧
        Kept t after path (path.withFinalName (name ++ ".tmp")) := by
  by_cases hneighbour : ∃ names, t.HasRoom (path.withFinalName (name ++ ".tmp")) names
  · obtain ⟨names, hneighbour⟩ := hneighbour
    refine ⟨_, .inl ⟨?_, spoilt_of_insert hname hneighbour⟩⟩
    rw [spoil, write_of_hasRoom hneighbour]
  · have hnone := not_exists.1 hneighbour
    obtain ⟨error, hwrite⟩ := write_of_not hnone .empty
    obtain ⟨last, hcleanUp⟩ := cleanUp_of_not hnone error
    refine ⟨t, .inr ⟨last, ?_, kept_of_not hnone⟩⟩
    simp only [spoil, hwrite, hcleanUp, Option.map_some]

/-! ### Writing a text -/

/-- No file with a null character in its path can be replaced. -/
theorem not_canReplace_of_hasNull (h : path.hasNull = true) : ¬ t.CanReplace path temporary := by
  rintro ⟨-, ⟨names, htarget⟩, -⟩
  have hnull := (place_eq_ok_iff.1 htarget.place).1
  rw [h] at hnull
  cases hnull

/-- Without a last name nothing is touched. -/
theorem writeText_of_finalName?_eq_none (h : path.finalName? = none) (codes : List Nat) :
    t.writeText path codes = (t, some (.noFinalName path)) := by
  rw [writeText, path.temporary?_eq, h, Option.map_none]

/-- With a null character in the path nothing is touched. -/
theorem writeText_of_hasNull (hname : path.finalName? = some name) (h : path.hasNull = true)
    (codes : List Nat) : t.writeText path codes = (t, some .nullInPath) := by
  rw [writeText, path.temporary?_eq, hname, Option.map_some]
  simp only [Path.hasNull_withFinalName hname, h, if_true]

/-- A text is written by replacing the file with its bytes. -/
theorem writeText_of_text (hname : path.finalName? = some name) (h : path.hasNull = false)
    (text : String) :
    t.writeText path (codesOf text.toList) =
      ((t.replace path (path.withFinalName (name ++ ".tmp")) text.toUTF8).1,
        (t.replace path (path.withFinalName (name ++ ".tmp")) text.toUTF8).2.map .file) := by
  rw [writeText, path.temporary?_eq, hname, Option.map_some]
  simp only [Path.hasNull_withFinalName hname, h, Bool.false_eq_true, if_false,
    textOfCodes?_codesOf, String.ofList_toList]

/-- A text with halves of surrogate pairs only gets as far as the open neighbour. -/
theorem writeText_of_halved (hname : path.finalName? = some name) (h : path.hasNull = false)
    (hcodes : textOfCodes? codes = none) :
    t.writeText path codes = t.spoil (path.withFinalName (name ++ ".tmp")) codes := by
  rw [writeText, path.temporary?_eq, hname, Option.map_some]
  simp only [Path.hasNull_withFinalName hname, h, Bool.false_eq_true, if_false, hcodes]

/-- How writing to a file with a last name can end, for everything that can be asked to be
written. -/
theorem writeText_ends (hname : path.finalName? = some name) (codes : List Nat) :
    let temporary := path.withFinalName (name ++ ".tmp")
    let (after, fault) := t.writeText path codes
    (fault = none ↔ t.CanReplace path temporary ∧ ∃ text : String, codes = codesOf text.toList) ∧
      match fault with
      | none => ∃ text : String, codes = codesOf text.toList ∧
          t.Replaced after path temporary text.toUTF8
      | some (.file _) => t.Kept after path temporary
      | some (.halved _) => (∀ text : String, codes ≠ codesOf text.toList) ∧
          t.Spoilt after path temporary
      | some fault => fault = .nullInPath ∧ path.hasNull = true ∧ after = t := by
  intro temporary
  cases hnull : path.hasNull with
  | true =>
    -- nothing is touched, and no file could be replaced under such a path either
    rw [writeText_of_hasNull hname hnull]
    exact ⟨iff_of_false nofun fun h => not_canReplace_of_hasNull hnull h.1, rfl, rfl, rfl⟩
  | false =>
    -- where there are no bytes the neighbour is spoilt, and otherwise the file replaced
    cases hcodes : textOfCodes? codes with
    | none =>
      have hno (text : String) : codes ≠ codesOf text.toList := fun heq => by
        rw [textOfCodes?_eq_some_iff.2 heq] at hcodes
        cases hcodes
      have hnever : ¬ (t.CanReplace path temporary ∧ ∃ text : String, codes = codesOf text.toList) :=
        fun ⟨_, text, heq⟩ => hno text heq
      rw [writeText_of_halved hname hnull hcodes]
      obtain ⟨after, ⟨hspoil, hspoilt⟩ | ⟨error, hspoil, hkept⟩⟩ := t.spoil_ends hname codes
      · rw [hspoil]
        exact ⟨iff_of_false nofun hnever, hno, hspoilt⟩
      · rw [hspoil]
        exact ⟨iff_of_false nofun hnever, hkept⟩
    | some text =>
      obtain rfl := textOfCodes?_eq_some_iff.1 hcodes
      rw [writeText_of_text hname hnull]
      by_cases hcan : t.CanReplace path temporary
      · obtain ⟨after, hreplace, hreplaced⟩ := replace_of_canReplace hname hcan text.toUTF8
        rw [hreplace]
        exact ⟨iff_of_true rfl ⟨hcan, text, rfl⟩, text, rfl, hreplaced⟩
      · obtain ⟨after, error, hreplace, hkept⟩ := replace_of_not hname hcan text.toUTF8
        rw [hreplace]
        exact ⟨iff_of_false nofun fun h => hcan h.1, hkept⟩

end FileTree

/-! ### Writing a source -/

namespace Written

variable {ε : Type}

/-- Whether writing a source to a file was all or nothing, by what was rendered and the files before.
If the source could not be rendered or the path has no last name, no file was touched.  Otherwise the
file was replaced by one with the bytes of the source just if that could be done and the source is a
text.  If the files refused, the file was kept.  A source that is no text did not get to the file
either, but left an empty neighbour. -/
def IsAtomic (written : Written ε) (rendered : Except ε (List Nat)) (files : FileTree)
    (path : Path) : Prop :=
  match rendered, path.finalName? with
  | .error fault, _ => written.fault = some (.render fault) ∧ written.files = files
  | .ok _, none => written.fault = some (.write (.noFinalName path)) ∧ written.files = files
  | .ok codes, some name =>
    let temporary := path.withFinalName (name ++ ".tmp")
    (written.fault = none ↔
        files.CanReplace path temporary ∧ ∃ text : String, codes = codesOf text.toList) ∧
      match written.fault with
      | none => ∃ text : String, codes = codesOf text.toList ∧
          files.Replaced written.files path temporary text.toUTF8
      | some (.write (.file _)) => files.Kept written.files path temporary
      | some (.write (.halved _)) => (∀ text : String, codes ≠ codesOf text.toList) ∧
          files.Spoilt written.files path temporary
      | some fault =>
        fault = .write .nullInPath ∧ path.hasNull = true ∧ written.files = files

end Written

namespace RenderRequest

variable {ε : Type} {render : Renderer ε} {request : RenderRequest} {g : Graph} {site : Site}

/-- Where nothing is rendered, no file is touched. -/
theorem writeFileBy_of_error {fault : ε} (h : (render request g site).result = .error fault)
    (path : Path) :
    (request.writeFileBy render g site path).fault = some (.render fault) ∧
      (request.writeFileBy render g site path).files = site.files := by
  simp only [writeFileBy, h, and_self]

/-- What is rendered is what is written. -/
theorem writeFileBy_of_ok {codes : List Nat} (h : (render request g site).result = .ok codes)
    (path : Path) :
    (request.writeFileBy render g site path).fault =
        (site.files.writeText path codes).2.map .write ∧
      (request.writeFileBy render g site path).files = (site.files.writeText path codes).1 := by
  simp only [writeFileBy, h]
  obtain ⟨files, fault⟩ := site.files.writeText path codes
  cases fault with
  | none => exact ⟨rfl, rfl⟩
  | some fault => exact ⟨rfl, rfl⟩

/-- Writing is all or nothing, whatever renders the source and however that can fail. -/
theorem isAtomic_writeFileBy (render : Renderer ε) (request : RenderRequest) (g : Graph)
    (site : Site) (path : Path) :
    (request.writeFileBy render g site path).IsAtomic (render request g site).result site.files
      path := by
  rw [Written.IsAtomic.eq_def]
  cases hresult : (render request g site).result with
  | error fault => exact writeFileBy_of_error hresult path
  | ok codes =>
    -- what is rendered is only passed on, so all depends on the write
    obtain ⟨hfault, hfiles⟩ := writeFileBy_of_ok hresult path
    rw [hfault, hfiles]
    cases hname : path.finalName? with
    | none =>
      rw [FileTree.writeText_of_finalName?_eq_none hname]
      exact ⟨rfl, rfl⟩
    | some name =>
      have hends := site.files.writeText_ends hname codes
      revert hends
      obtain ⟨after, fault⟩ := site.files.writeText path codes
      rintro ⟨hiff, hend⟩
      refine ⟨Option.map_eq_none_iff.trans hiff, ?_⟩
      -- the ways to end are those of the write
      cases fault with
      | none => exact hend
      | some fault =>
        cases fault with
        | file error => exact hend
        | halved codes => exact hend
        | nullInPath => exact ⟨rfl, hend.2⟩
        | noFinalName path => cases hend.1

/-- Writing a source to a file is all or nothing, for the source that the templates render and for
everything else that could render it. -/
theorem writeFile_atomic (request : RenderRequest) (g : Graph) (site : Site) (path : Path) :
    (request.writeFile g site path).IsAtomic (request.renderCodes g site).result site.files path ∧
    ∀ {ε : Type} (render : Renderer ε), (request.writeFileBy render g site path).IsAtomic
      (render request g site).result site.files path :=
  ⟨isAtomic_writeFileBy renderCodes request g site path,
    fun render => isAtomic_writeFileBy render request g site path⟩

end RenderRequest

end MobileSchema
