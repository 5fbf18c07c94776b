import MobileSchema.Document.Json

/-!
# What JSON documents come to

Reading a JSON document has one of two ends.  Either the document is refused, and then it breaks the
grammar, stands too deep in itself or has an integer of too many digits (`Json.IsFault`); or it is
read, and then, if it is a map, all keys of the map are texts (`Value.IsKeyedByText`).

Both are carried through the reader together, as a property of results that is kept when one part is
read behind another (`Json.Proper`).  The three readers of values, items and entries call each
other, so one induction on their common bound proves the property for all of them
(`Json.proper_readers`).
-/

namespace MobileSchema

/-! ### Keys -/

namespace Value

/-- A text, with or without halves of surrogate pairs. -/
inductive IsText : Value → Prop
  | text (s : String) : IsText (.text s)
  | halved (codes : List Nat) : IsText (.halved codes)

/-- No map, or a map whose keys are texts. -/
def IsKeyedByText (v : Value) : Prop := ∀ entries, v = .map entries → ∀ e ∈ entries, e.1.IsText

/-- No map. -/
def IsNoMap (v : Value) : Prop := ∀ entries, v ≠ .map entries

theorem isText_ofCodes (codes : List Nat) : (ofCodes codes).IsText := by
  rw [ofCodes]
  cases textOfCodes? codes with
  | none => exact .halved codes
  | some s => exact .text s

theorem IsText.isNoMap {v : Value} (h : v.IsText) : v.IsNoMap := by
  rintro entries rfl
  cases h

theorem IsNoMap.isKeyedByText {v : Value} (h : v.IsNoMap) : v.IsKeyedByText :=
  fun entries hv => absurd hv (h entries)

variable {P : Value → Prop} {entries : List (Value × Value)} {key value : Value}

/-- An entry that is put into a map has the new key, or the key of an entry of the map. -/
theorem forall_key_insertEntry (h : ∀ e ∈ entries, P e.1) (hkey : P key) :
    ∀ e ∈ insertEntry entries key value, P e.1 := by
  rw [insertEntry]
  split
  · intro e he
    obtain ⟨old, hold, rfl⟩ := List.mem_map.1 he
    split
    · exact h old hold
    · exact h old hold
  · intro e he
    rcases List.mem_append.1 he with he | he
    · exact h e he
    · obtain rfl := List.mem_singleton.1 he
      exact hkey

/-- The keys of a map are keys of the entries that it is made of. -/
theorem forall_key_mapOfEntries (h : ∀ e ∈ entries, P e.1) : ∀ e ∈ mapOfEntries entries, P e.1 := by
  -- said of every map that the entries are put into, not just the empty one
  have hfold : ∀ map : List (Value × Value), (∀ e ∈ map, P e.1) →
      ∀ e ∈ entries.foldl (fun map e => insertEntry map e.1 e.2) map, P e.1 := by
    induction entries with
    | nil => exact fun map hmap => hmap
    | cons entry entries ih =>
      intro map hmap
      obtain ⟨hentry, hentries⟩ := List.forall_mem_cons.1 h
      exact ih hentries _ (forall_key_insertEntry hmap hentry)
  exact hfold [] nofun

end Value

namespace Json

/-! ### Faults -/

/-- The faults of JSON documents. -/
inductive IsFault : DocumentFault → Prop
  | malformed : IsFault .malformed
  | nestedTooDeep {what : Nesting} (h : what ≠ .yaml) : IsFault (.nestedTooDeep what)
  | tooManyDigits {count : Nat} (h : digitLimit < count) : IsFault (.tooManyDigits count)

variable {α β : Type} {P : α → Prop} {Q : β → Prop} {result : Except DocumentFault α}

/-- A result whose fault is one of JSON documents, or whose value has a property. -/
def Proper (P : α → Prop) : Except DocumentFault α → Prop
  | .error fault => IsFault fault
  | .ok a => P a

/-- What a proper reading has read is as it is said to be. -/
theorem Proper.of_ok {a : α} (h : Proper P result) (hresult : result = .ok a) : P a := by
  rw [hresult] at h
  exact h

/-- A proper reading is refused for a fault of the document, and for no other. -/
theorem Proper.isFault {fault : DocumentFault} (h : Proper P result)
    (hresult : result = .error fault) : IsFault fault := by
  rw [hresult] at h
  exact h

theorem Proper.imp {P' : α → Prop} (h : Proper P result) (himp : ∀ a, P a → P' a) :
    Proper P' result := by
  cases result with
  | error fault => exact h
  | ok a => exact himp a h

/-- Proper readings after each other are proper. -/
theorem Proper.bind {next : α → Except DocumentFault β} (h : Proper P result)
    (hnext : ∀ a, P a → Proper Q (next a)) : Proper Q (result >>= next) := by
  cases result with
  | error fault => exact h
  | ok a => exact hnext a h

theorem Proper.map {f : α → β} (h : Proper P result) (hf : ∀ a, P a → Q (f a)) :
    Proper Q (result.map f) := by
  cases result with
  | error fault => exact h
  | ok a => exact hf a h

/-! ### Scalars -/

theorem proper_readStringFrom (fuel : Nat) (cs : List Char) :
    Proper (fun _ => True) (readStringFrom fuel cs) := by
  fun_induction readStringFrom fuel cs with
  | case1 => exact trivial
  | case2 => exact .malformed
  | case3 _ _ _ _ _ ih => exact ih.bind fun _ _ => trivial
  | case4 => exact .malformed
  | case5 _ _ _ _ _ _ ih => exact ih.bind fun _ _ => trivial
  | case6 => exact .malformed
  | case7 _ _ _ _ _ _ _ ih => exact ih.bind fun _ _ => trivial
  | case8 => exact .malformed

/-- A string that is read is a text. -/
theorem proper_readString (cs : List Char) : Proper (·.1.IsText) (readString cs) :=
  (proper_readStringFrom cs.length cs).bind fun read _ => Value.isText_ofCodes read.1

/-- Reading a number never makes a mapping. -/
theorem proper_readNumber (negative : Bool) (cs : List Char) :
    Proper (·.1.IsNoMap) (readNumber negative cs) := by
  rw [readNumber.eq_def]
  split
  rename_i whole rest _
  split
  · exact .malformed
  · split
    · split
      · rename_i hlong
        exact .tooManyDigits hlong
      · exact nofun
    · exact nofun
    · exact nofun

theorem proper_readScalar (cs : List Char) : Proper (·.1.IsNoMap) (readScalar cs) := by
  rw [readScalar.eq_def]
  split
  · rename_i result hword
    obtain ⟨⟨word, value⟩, hmem, hvalue⟩ := List.exists_of_findSome?_eq_some hword
    obtain ⟨rest, -, rfl⟩ := Option.map_eq_some_iff.1 hvalue
    have hplain : ∀ e ∈ wordValues, e.2.IsNoMap := by
      simp only [wordValues, List.forall_mem_cons]
      exact ⟨nofun, nofun, nofun, nofun, nofun, nofun, nofun⟩
    exact hplain _ hmem
  · split
    · exact (proper_readString _).imp fun _ => Value.IsText.isNoMap
    · exact proper_readNumber true _
    · exact proper_readNumber false _

/-! ### Lists and maps -/

/-- The readers of values, items and entries call each other; that they are proper is proved for all
three at once, by induction on the fuel. -/
theorem proper_readers (fuel : Nat) :
    (∀ room cs, Proper (·.1.IsKeyedByText) (readValueFrom fuel room cs)) ∧
      (∀ room cs, Proper (fun _ => True) (readItemsFrom fuel room cs)) ∧
      ∀ room cs, Proper (fun read => ∀ e ∈ read.1, e.1.IsText) (readEntriesFrom fuel room cs) := by
  -- each reader calls the others with one less, so all three go together
  induction fuel with
  | zero =>
    refine ⟨?_, ?_, ?_⟩
    · intro room cs
      rw [readValueFrom]
      exact .malformed
    · intro room cs
      rw [readItemsFrom]
      exact .malformed
    · intro room cs
      rw [readEntriesFrom]
      · exact .malformed
      · exact nofun
  | succ fuel ih =>
    obtain ⟨hvalue, hitems, hentries⟩ := ih
    refine ⟨?_, ?_, ?_⟩
    · intro room cs
      rw [readValueFrom.eq_def]
      dsimp only
      split
      · split
        · exact .nestedTooDeep nofun
        · split
          · exact nofun
          · exact (hitems _ _).map fun _ _ => nofun
      · split
        · exact .nestedTooDeep nofun
        · split
          · rintro entries hmap e he
            cases hmap
            cases he
          · refine (hentries _ _).map fun read htext => ?_
            rintro _ hmap
            cases hmap
            exact Value.forall_key_mapOfEntries htext
      · exact (proper_readScalar _).imp fun _ => Value.IsNoMap.isKeyedByText
    · intro room cs
      rw [readItemsFrom]
      refine (hvalue _ _).bind fun item _ => ?_
      dsimp only
      split
      · exact (hitems _ _).bind fun _ _ => trivial
      · exact trivial
      · exact .malformed
    · intro room cs
      rw [readEntriesFrom.eq_def]
      split
      · rename_i hfuel
        obtain rfl := Nat.succ.inj hfuel
        refine (proper_readString _).bind fun key hkey => ?_
        dsimp only
        split
        · refine (hvalue _ _).bind fun value _ => ?_
          split
          · refine (hentries _ _).bind fun entries htext => ?_
            exact List.forall_mem_cons.2 ⟨hkey, htext⟩
          · exact List.forall_mem_singleton.2 hkey
          · exact .malformed
        · exact .malformed
      · exact .malformed

/-- A document that is read is no map or keyed by texts, and its faults are those of JSON. -/
theorem proper_read (room : Nat) (cs : List Char) : Proper Value.IsKeyedByText (read room cs) := by
  refine ((proper_readers (2 * cs.length + 2)).1 room _).bind fun value hvalue => ?_
  dsimp only
  split
  · exact hvalue
  · exact .malformed

end Json

end MobileSchema
