import MobileSchema.Proofs.Document.Json

/-!
# The keys of documents

A map of a document has each key once.  What matters here is that it has each text once
(`Value.NamesOnce`), so that an entry of the map can be told by its name, wherever it stands.

Entries are put into a map one by one, and an entry whose key is there already takes its place.
Different readers do that with different notions of a key that is there already, and so
`namesOnce_insert` is about any such notion which knows a text again.
-/

namespace MobileSchema

namespace Value

/-- Whether no two of some keys are the same text. -/
def NamesOnce (keys : List Value) : Prop :=
  keys.Pairwise fun k l => ∀ name, k = .text name → l ≠ .text name

/-- No map, or a map that has each text once among its keys. -/
def HasNamesOnce (v : Value) : Prop := ∀ entries, v = .map entries → NamesOnce (entries.map (·.1))

theorem IsNoMap.hasNamesOnce {v : Value} (h : v.IsNoMap) : v.HasNamesOnce :=
  fun entries hv => absurd hv (h entries)

theorem hasNamesOnce_null : Value.null.HasNamesOnce := by
  rintro _ ⟨⟩

/-- A name has one value in a map. -/
theorem NamesOnce.eq_of_mem {β : Type} {entries : List (Value × β)} {name : String} {v w : β}
    (h : NamesOnce (entries.map (·.1))) (hv : (.text name, v) ∈ entries)
    (hw : (.text name, w) ∈ entries) : v = w := by
  induction entries with
  | nil => cases hv
  | cons e entries ih =>
    obtain ⟨hfirst, hrest⟩ := List.pairwise_cons.1 h
    have hother : ∀ x, e.1 = .text name → (.text name, x) ∉ entries :=
      fun x he hx => hfirst _ (List.mem_map.2 ⟨_, hx, rfl⟩) name he rfl
    rcases List.mem_cons.1 hv with hv | hv <;> rcases List.mem_cons.1 hw with hw | hw
    · rw [← hv] at hw
      exact (congrArg Prod.snd hw).symm
    · exact absurd hw (hother w (congrArg Prod.fst hv).symm)
    · exact absurd hv (hother v (congrArg Prod.fst hw).symm)
    · exact ih hrest hv hw

/-- Putting an entry into a map, in the place of the one with the same key if there is one, keeps
its keys different; it is enough that a text is known again. -/
theorem namesOnce_insert {κ β : Type} (value : κ → Value) {same : κ → κ → Bool}
    (hsame : ∀ k l name, value k = .text name → value l = .text name → same k l = true)
    {entries : List (κ × β)} (h : NamesOnce (entries.map (value ·.1))) (key : κ) (x : β) :
    NamesOnce ((if entries.any (same ·.1 key)
      then entries.map fun e => if same e.1 key then (e.1, x) else e
      else entries ++ [(key, x)]).map (value ·.1)) := by
  split
  · -- an entry takes the place of another with the same key, so the keys are as before
    have hkeys : (entries.map fun e => if same e.1 key then (e.1, x) else e).map (value ·.1) =
        entries.map (value ·.1) := by
      rw [List.map_map]
      refine List.map_congr_left fun e _ => ?_
      rw [Function.comp_apply]
      split <;> rfl
    rw [hkeys]
    exact h
  · next hnew =>
    -- a new key is not known among the old ones
    rw [List.map_append, NamesOnce, List.pairwise_append]
    refine ⟨h, List.pairwise_singleton _ _, ?_⟩
    intro k hk l hl name hname hagain
    obtain ⟨e, he, rfl⟩ := List.mem_map.1 hk
    rw [List.mem_singleton.1 hl] at hagain
    exact hnew (List.any_eq_true.2 ⟨e, he, hsame _ _ name hname hagain⟩)

/-- A name is the same as itself, as a key. -/
theorem same_text (name : String) : (Value.text name).same (.text name) = true := by
  simp [same]

/-- A new entry takes the place of one with the same key, so that no name comes twice. -/
theorem namesOnce_insertEntry {entries : List (Value × Value)}
    (h : NamesOnce (entries.map (·.1))) (key value : Value) :
    NamesOnce ((insertEntry entries key value).map (·.1)) := by
  refine namesOnce_insert id ?_ h key value
  rintro k l name rfl rfl
  exact same_text name

/-- However often names are written in a mapping, each is kept once. -/
theorem namesOnce_mapOfEntries (entries : List (Value × Value)) :
    NamesOnce ((mapOfEntries entries).map (·.1)) := by
  have hfold : ∀ map : List (Value × Value), NamesOnce (map.map (·.1)) →
      NamesOnce ((entries.foldl (fun map e => insertEntry map e.1 e.2) map).map (·.1)) := by
    induction entries with
    | nil => exact fun map hmap => hmap
    | cons e entries ih => exact fun map hmap => ih _ (namesOnce_insertEntry hmap e.1 e.2)
  exact hfold [] .nil

end Value

/-! ### JSON -/

namespace Json

/-- Every mapping that is read has each name once, at every depth. -/
theorem proper_namesOnce_readValueFrom (fuel room : Nat) (cs : List Char) :
    Proper (·.1.HasNamesOnce) (readValueFrom fuel room cs) := by
  cases fuel with
  | zero =>
    rw [readValueFrom]
    exact .malformed
  | succ fuel =>
    obtain ⟨-, hitems, hentries⟩ := proper_readers fuel
    rw [readValueFrom.eq_def]
    dsimp only
    split
    · -- a list is no mapping
      split
      · refine .nestedTooDeep ?_
        rintro ⟨⟩
      · split
        · rintro _ ⟨⟩
        · refine (hitems _ _).map fun read _ => ?_
          rintro _ ⟨⟩
    · -- an object is read as a mapping, whose entries are put in one by one
      split
      · refine .nestedTooDeep ?_
        rintro ⟨⟩
      · split
        · rintro entries hmap
          cases hmap
          exact .nil
        · refine (hentries _ _).map fun read _ => ?_
          rintro _ hmap
          cases hmap
          exact Value.namesOnce_mapOfEntries read.1
    · exact (proper_readScalar _).imp fun _ => Value.IsNoMap.hasNamesOnce

/-- A map that is read has each text once among its keys. -/
theorem proper_namesOnce_read (room : Nat) (cs : List Char) :
    Proper Value.HasNamesOnce (read room cs) := by
  refine (proper_namesOnce_readValueFrom _ room _).bind fun value hvalue => ?_
  dsimp only
  split
  · exact hvalue
  · exact .malformed

end Json

end MobileSchema
