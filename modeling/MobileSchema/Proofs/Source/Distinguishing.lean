import MobileSchema.Proofs.Source.Declaring
import MobileSchema.Proofs.Source.Delimiting

/-!
# Declarations that differ

A declaration determines its name and its shape if all names in it are plain and no model is named
like the type of a kind (`ShapeOutline.declared_inj`).  It is taken apart from the left: what stands
before the name (`before_append_inj`), the name, which ends where a type or an initial value begins,
what stands between it and the type (`between_append_inj`), and the type, which ends where something
else than a name follows.  The parts determine the shape (`eq_of_parts`).

The one confusion that there could be is that of an optional field with a relation to one model,
which are written alike but for their types.
-/

namespace MobileSchema

/-! ### Names of classes -/

/-- Whether a name is plain and none of the types of the kinds. -/
def isClassName (name : String) : Bool :=
  isPlainName name && catalog.all fun type => name ≠ type.typeName.ios ∧ name ≠ type.typeName.android

theorem isPlainName_of_isClassName {name : String} (h : isClassName name) : isPlainName name :=
  (Bool.and_eq_true_iff.1 h).1

/-- No class has the name of a type of fields, which is what tells a relation from a field. -/
theorem ne_typeName_of_isClassName {name : String} (h : isClassName name) (kind : FieldKind)
    (language : Language) : name ≠ kind.fieldType.typeName.forLanguage language := by
  have hkind : kind.fieldType ∈ catalog := List.mem_map_of_mem kind.mem_all
  have hne := of_decide_eq_true (List.all_eq_true.1 (Bool.and_eq_true_iff.1 h).2 _ hkind)
  cases language with
  | swift => exact hne.1
  | kotlin => exact hne.2

/-- Kinds have different types in each of the languages. -/
theorem FieldKind.typeName_inj {kind kind' : FieldKind} {language : Language}
    (h : kind.fieldType.typeName.forLanguage language =
      kind'.fieldType.typeName.forLanguage language) : kind = kind' := by
  revert h
  cases language <;> cases kind <;> cases kind' <;> simp [FieldKind.fieldType]

theorem FieldKind.isPlainName_typeName (kind : FieldKind) (language : Language) :
    isPlainName (kind.fieldType.typeName.forLanguage language) := by
  cases kind <;> cases language <;> decide

namespace ShapeOutline

/-- Whether a shape has plain names only and no target that is named like a type, and a kind as
such, if it is one of a typed field. -/
def Plain : ShapeOutline → Prop
  | typed kind _ => ∃ known, kind = .known known
  | toOne target | toMany target => isClassName target
  | inverse target forward _ => isClassName target ∧ isPlainName forward

variable {x y : ShapeOutline} {language : Language} {rest rest' : String}

/-! ### Where parts end -/

/-- The type of a plain shape is a plain name. -/
theorem isPlainName_typeName (hx : x.Plain) : isPlainName (x.typeName.forLanguage language) := by
  cases x with
  | typed kind required =>
    obtain ⟨known, rfl⟩ := hx
    exact known.isPlainName_typeName language
  | toOne target => cases language <;> exact isPlainName_of_isClassName hx
  | toMany target => cases language <;> exact isPlainName_of_isClassName hx
  | inverse target forward isPrivate =>
    cases language <;> exact isPlainName_of_isClassName hx.1

/-- What stands between the name and the type in Swift is one of four texts. -/
theorem between_ios_mem : x.between.ios ∈
    [": ", " = RealmOptional<", " = List<", " = LinkingObjects(fromType: "] := by
  cases x with
  | typed kind required =>
    rw [between, FieldType.between]
    dsimp only
    split <;> simp
  | _ => simp [between]

theorem between_android_mem : x.between.android ∈ [": ", ": RealmList<", ": RealmResults<"] := by
  cases x <;> simp [between, FieldType.between]

/-- A name ends before what stands between it and its type. -/
theorem endsName_between (rest : String) :
    EndsName (x.between.forLanguage language ++ rest).toList := by
  cases language with
  | swift =>
    show EndsName (x.between.ios ++ rest).toList
    have hmem := x.between_ios_mem
    simp only [List.mem_cons, List.not_mem_nil, or_false] at hmem
    rcases hmem with h | h | h | h <;> rw [h] <;> simp [EndsName, isNameChar]
  | kotlin =>
    show EndsName (x.between.android ++ rest).toList
    have hmem := x.between_android_mem
    simp only [List.mem_cons, List.not_mem_nil, or_false] at hmem
    rcases hmem with h | h | h <;> rw [h] <;> simp [EndsName, isNameChar]

theorem endsName_behind : EndsName (x.behind.forLanguage language).toList := by
  cases x with
  | typed kind required =>
    show EndsName (((typeOf kind).behind required).forLanguage language).toList
    obtain ⟨kind, typeName, defaultValue, nullable⟩ := typeOf kind
    cases language <;> cases required <;> cases nullable <;>
      simp [FieldType.behind, EndsName, isNameChar]
  | toOne target =>
    show EndsName (PlatformPair.forLanguage ⟨"? = nil", "? = null"⟩ language).toList
    cases language <;> simp [EndsName, isNameChar]
  | toMany target =>
    show EndsName (PlatformPair.forLanguage ⟨">()", "> = RealmList()"⟩ language).toList
    cases language <;> simp [EndsName, isNameChar]
  | inverse target forward isPrivate =>
    show EndsName (PlatformPair.forLanguage
      ⟨".self, property: \"" ++ (forward ++ "\")"), ">? = null"⟩ language).toList
    cases language <;> simp [EndsName, isNameChar]

/-! ### Taking declarations apart -/

/-- What stands before the name in a backlink in Kotlin ends behind a modifier, and shows both the
forward relation and the modifier. -/
theorem before_inverse_append_inj {forward forward' : String} {isPrivate isPrivate' : Bool}
    (hforward : isPlainName forward) (hforward' : isPlainName forward')
    (h : "@LinkingObjects(\"" ++ (forward ++ ("\") " ++ ((if isPrivate then "private " else "") ++
        "val "))) ++ rest =
      "@LinkingObjects(\"" ++ (forward' ++ ("\") " ++ ((if isPrivate' then "private " else "") ++
        "val "))) ++ rest') :
    forward = forward' ∧ isPrivate = isPrivate' ∧ rest = rest' := by
  have hends : ∀ more, EndsName ("\") " ++ more).toList := by
    intro more
    simp [EndsName, isNameChar]
  simp only [String.append_assoc, String.append_right_inj] at h
  obtain ⟨rfl, h⟩ := name_append_inj hforward hforward' (hends _) (hends _) h
  rw [String.append_right_inj, ← String.toList_inj] at h
  cases isPrivate <;> cases isPrivate' <;> simp at h
  all_goals exact ⟨rfl, rfl, String.toList_inj.1 h⟩

theorem before_android_mem (h : x.isBacklink = false) : x.before.android ∈ ["var ", "val "] := by
  cases x <;> simp [before, FieldType.before, isBacklink] at h ⊢

theorem eq_inverse_of_isBacklink (h : x.isBacklink = true) :
    ∃ target forward isPrivate, x = .inverse target forward isPrivate := by
  cases x <;> simp [isBacklink] at h ⊢

/-- Where the name begins can be told from what stands before it. -/
theorem before_append_inj (hx : x.Plain) (hy : y.Plain)
    (h : x.before.forLanguage language ++ rest = y.before.forLanguage language ++ rest') :
    x.before.forLanguage language = y.before.forLanguage language ∧ rest = rest' := by
  cases language with
  | swift => exact literal_append_inj (by decide) x.before_ios_mem y.before_ios_mem h
  | kotlin =>
    obtain ⟨-, hsort⟩ := sort_eq_of_before_append h
    cases hbacklink : x.isBacklink with
    | false =>
      rw [hbacklink] at hsort
      exact literal_append_inj (by decide) (before_android_mem hbacklink)
        (before_android_mem hsort.symm) h
    | true =>
      rw [hbacklink] at hsort
      obtain ⟨target, forward, isPrivate, rfl⟩ := eq_inverse_of_isBacklink hbacklink
      obtain ⟨target', forward', isPrivate', rfl⟩ := eq_inverse_of_isBacklink hsort.symm
      obtain ⟨rfl, rfl, hrest⟩ := before_inverse_append_inj hx.2 hy.2 h
      exact ⟨rfl, hrest⟩

/-- The sort of a declaration in Kotlin says what stands between name and type. -/
theorem between_android_eq (x : ShapeOutline) : x.between.android =
    if x.isListRelation then ": RealmList<" else if x.isBacklink then ": RealmResults<" else ": " := by
  cases x <;> rfl

/-- Where the type begins can be told from what stands between it and the name. -/
theorem between_append_inj
    (hbefore : x.before.forLanguage language = y.before.forLanguage language)
    (h : x.between.forLanguage language ++ rest = y.between.forLanguage language ++ rest') :
    x.between.forLanguage language = y.between.forLanguage language ∧ rest = rest' := by
  cases language with
  | swift => exact literal_append_inj (by decide) x.between_ios_mem y.between_ios_mem h
  | kotlin =>
    -- what stands before the name tells already what there is behind it
    have hsame : x.between.android = y.between.android := by
      obtain ⟨hlist, hbacklink⟩ := sort_eq_of_before_eq hbefore
      rw [between_android_eq, between_android_eq, hlist, hbacklink]
    refine ⟨hsame, ?_⟩
    rw [PlatformPair.forLanguage_kotlin, PlatformPair.forLanguage_kotlin, hsame] at h
    exact (String.append_right_inj _).1 h

/-! ### What parts determine -/

theorem eq_of_typed {kind kind' : FieldKind} {required required' : Bool}
    (htype : kind.fieldType.typeName.forLanguage language =
      kind'.fieldType.typeName.forLanguage language)
    (hbehind : (kind.fieldType.behind required).forLanguage language =
      (kind'.fieldType.behind required').forLanguage language) :
    typed (.known kind) required = typed (.known kind') required' := by
  obtain rfl := FieldKind.typeName_inj htype
  revert hbehind
  cases language <;> cases required <;> cases required' <;> cases kind <;>
    simp [FieldType.behind, FieldKind.fieldType]

/-- What stands between name and type in Swift says what sort of declaration it is. -/
theorem sort_iff_between_ios (x : ShapeOutline) :
    (x.isListRelation ↔ x.between.ios = " = List<") ∧
      (x.isBacklink ↔ x.between.ios = " = LinkingObjects(fromType: ") := by
  cases x with
  | typed kind required =>
    rw [between, FieldType.between]
    dsimp only
    split <;> simp [isListRelation, isBacklink]
  | _ => simp [between, isListRelation, isBacklink]

/-- What stands before the name and behind it tells lists and backlinks from the rest. -/
theorem sort_eq_of_parts (hbefore : x.before.forLanguage language = y.before.forLanguage language)
    (hbetween : x.between.forLanguage language = y.between.forLanguage language) :
    x.isListRelation = y.isListRelation ∧ x.isBacklink = y.isBacklink := by
  cases language with
  | swift =>
    rw [PlatformPair.forLanguage_swift, PlatformPair.forLanguage_swift] at hbetween
    obtain ⟨hlist, hbacklink⟩ := x.sort_iff_between_ios
    rw [hbetween] at hlist hbacklink
    obtain ⟨hlist', hbacklink'⟩ := y.sort_iff_between_ios
    exact ⟨Bool.eq_iff_iff.2 (hlist.trans hlist'.symm),
      Bool.eq_iff_iff.2 (hbacklink.trans hbacklink'.symm)⟩
  | kotlin => exact sort_eq_of_before_eq hbefore

/-- A backlink shows its forward relation and its modifier, on the one platform before the name
and on the other also behind the type. -/
theorem eq_of_inverse {target forward forward' : String} {isPrivate isPrivate' : Bool}
    (hx : (inverse target forward isPrivate).Plain) (hy : (inverse target forward' isPrivate').Plain)
    (hbefore : (inverse target forward isPrivate).before.forLanguage language =
      (inverse target forward' isPrivate').before.forLanguage language)
    (hbehind : (inverse target forward isPrivate).behind.forLanguage language =
      (inverse target forward' isPrivate').behind.forLanguage language) :
    inverse target forward isPrivate = inverse target forward' isPrivate' := by
  cases language with
  | swift =>
    have hprivate : isPrivate = isPrivate' := by
      revert hbefore
      cases isPrivate <;> cases isPrivate' <;> simp [before]
    have hforward : ".self, property: \"" ++ (forward ++ "\")") =
        ".self, property: \"" ++ (forward' ++ "\")") := hbehind
    rw [String.append_right_inj, String.append_left_inj] at hforward
    rw [hprivate, hforward]
  | kotlin =>
    obtain ⟨rfl, rfl, -⟩ := before_inverse_append_inj hx.2 hy.2 (congrArg (· ++ "") hbefore)
    rfl

/-- The parts of a declaration determine its shape. -/
theorem eq_of_parts (hx : x.Plain) (hy : y.Plain)
    (hbefore : x.before.forLanguage language = y.before.forLanguage language)
    (hbetween : x.between.forLanguage language = y.between.forLanguage language)
    (htype : x.typeName.forLanguage language = y.typeName.forLanguage language)
    (hbehind : x.behind.forLanguage language = y.behind.forLanguage language) : x = y := by
  have hsort := sort_eq_of_parts hbefore hbetween
  cases x with
  | typed kind required =>
    obtain ⟨known, rfl⟩ := hx
    cases y with
    | typed kind' required' =>
      obtain ⟨known', rfl⟩ := hy
      exact eq_of_typed htype hbehind
    | toOne target =>
      -- an optional field and such a relation are written alike but for the type
      rw [typeName, typeName, PlatformPair.forLanguage_both] at htype
      exact absurd htype.symm (ne_typeName_of_isClassName hy known language)
    | _ => simp [isListRelation, isBacklink] at hsort
  | toOne target =>
    cases y with
    | typed kind' required' =>
      obtain ⟨known', rfl⟩ := hy
      rw [typeName, typeName, PlatformPair.forLanguage_both] at htype
      exact absurd htype (ne_typeName_of_isClassName hx known' language)
    | toOne target' =>
      simp only [typeName, PlatformPair.forLanguage_both] at htype
      rw [htype]
    | _ => simp [isListRelation, isBacklink] at hsort
  | toMany target =>
    cases y with
    | toMany target' =>
      simp only [typeName, PlatformPair.forLanguage_both] at htype
      rw [htype]
    | _ => simp [isListRelation, isBacklink] at hsort
  | inverse target forward isPrivate =>
    cases y with
    | inverse target' forward' isPrivate' =>
      simp only [typeName, PlatformPair.forLanguage_both] at htype
      subst htype
      exact eq_of_inverse hx hy hbefore hbehind
    | _ => simp [isListRelation, isBacklink] at hsort

/-- A declaration determines its name and its shape. -/
theorem declared_inj (language : Language) {name name' : String} (hx : x.Plain) (hy : y.Plain)
    (hname : isPlainName name) (hname' : isPlainName name')
    (h : (x.declared name).forLanguage language = (y.declared name').forLanguage language) :
    name = name' ∧ x = y := by
  rw [forLanguage_declared, forLanguage_declared] at h
  obtain ⟨hbefore, hnames⟩ := before_append_inj hx hy h
  obtain ⟨rfl, hbetweens⟩ :=
    name_append_inj hname hname' (endsName_between _) (endsName_between _) hnames
  obtain ⟨hbetween, htypes⟩ := between_append_inj hbefore hbetweens
  obtain ⟨htype, hbehind⟩ := name_append_inj (isPlainName_typeName hx) (isPlainName_typeName hy)
    endsName_behind endsName_behind htypes
  exact ⟨rfl, eq_of_parts hx hy hbefore hbetween htype hbehind⟩

/-! ### Lines -/

theorem oneLine_before (hx : x.Plain) : OneLine (x.before.forLanguage language) := by
  cases language with
  | swift =>
    have hall : ∀ a ∈ ["@objc dynamic var ", "let ", "private let "], OneLine a := by decide
    exact hall _ x.before_ios_mem
  | kotlin =>
    cases hbacklink : x.isBacklink with
    | false =>
      have hall : ∀ a ∈ ["var ", "val "], OneLine a := by decide
      exact hall _ (before_android_mem hbacklink)
    | true =>
      obtain ⟨target, forward, isPrivate, rfl⟩ := eq_inverse_of_isBacklink hbacklink
      have hforward := oneLine_of_isPlainName hx.2
      show OneLine ("@LinkingObjects(\"" ++ (forward ++ ("\") " ++
        ((if isPrivate then "private " else "") ++ "val "))))
      simp only [oneLine_append, hforward]
      cases isPrivate <;> decide

theorem oneLine_between : OneLine (x.between.forLanguage language) := by
  cases language with
  | swift =>
    have hall : ∀ a ∈ [": ", " = RealmOptional<", " = List<", " = LinkingObjects(fromType: "],
        OneLine a := by decide
    exact hall _ x.between_ios_mem
  | kotlin =>
    have hall : ∀ a ∈ [": ", ": RealmList<", ": RealmResults<"], OneLine a := by decide
    exact hall _ x.between_android_mem

theorem oneLine_behind (hx : x.Plain) : OneLine (x.behind.forLanguage language) := by
  cases x with
  | typed kind required =>
    obtain ⟨known, rfl⟩ := hx
    show OneLine ((known.fieldType.behind required).forLanguage language)
    cases language <;> cases required <;> cases known <;> decide
  | toOne target =>
    show OneLine (PlatformPair.forLanguage ⟨"? = nil", "? = null"⟩ language)
    cases language <;> decide
  | toMany target =>
    show OneLine (PlatformPair.forLanguage ⟨">()", "> = RealmList()"⟩ language)
    cases language <;> decide
  | inverse target forward isPrivate =>
    have hforward := oneLine_of_isPlainName hx.2
    show OneLine (PlatformPair.forLanguage
      ⟨".self, property: \"" ++ (forward ++ "\")"), ">? = null"⟩ language)
    cases language with
    | swift =>
      rw [PlatformPair.forLanguage_swift, oneLine_append, oneLine_append]
      exact ⟨by decide, hforward, by decide⟩
    | kotlin => exact (by decide : OneLine ">? = null")

theorem oneLine_declared (language : Language) {name : String} (hx : x.Plain)
    (hname : isPlainName name) : OneLine ((x.declared name).forLanguage language) := by
  rw [forLanguage_declared]
  simp only [oneLine_append]
  exact ⟨oneLine_before hx, oneLine_of_isPlainName hname, oneLine_between,
    oneLine_of_isPlainName (isPlainName_typeName hx), oneLine_behind hx⟩

end ShapeOutline

/-! ### Properties -/

namespace PropertyOutline

/-- Whether a property has plain names only. -/
structure Plain (p : PropertyOutline) : Prop where
  name : isPlainName p.name
  shape : p.shape.Plain

variable {p q : PropertyOutline}

/-- A property line in Swift tells name and shape. -/
theorem swift_inj (hp : p.Plain) (hq : q.Plain) (h : p.swift = q.swift) :
    p.name = q.name ∧ p.shape = q.shape :=
  ShapeOutline.declared_inj .swift hp.shape hq.shape hp.name hq.name h

theorem kotlin_inj (hp : p.Plain) (hq : q.Plain) (h : p.kotlin = q.kotlin) : p = q := by
  obtain ⟨hindexed, hkey, hdeclared⟩ := marks_append_inj (p.shape.unmarked_declared p.name)
    (q.shape.unmarked_declared q.name) h
  obtain ⟨hname, hshape⟩ :=
    ShapeOutline.declared_inj .kotlin hp.shape hq.shape hp.name hq.name hdeclared
  exact PropertyOutline.ext hname hshape hindexed hkey

end PropertyOutline

end MobileSchema
