import MobileSchema.Proofs.Source.Outline

/-!
# The parts of a declaration

In both languages a declaration is put together from five parts: what stands before its name, the
name, what stands between the name and a type, the type, and what stands behind it
(`ShapeOutline.forLanguage_declared`).  Whether it declares a list, a backlink or something else is
said by what stands before the name.

In Kotlin there can be marks before all this.  No declaration starts as a mark does, so the marks
can be told from what follows them (`marks_append_inj`), whatever the names in it look like.
-/

namespace MobileSchema

@[simp] theorem PlatformPair.forLanguage_swift {α : Type} (pair : PlatformPair α) :
    pair.forLanguage .swift = pair.ios := rfl

@[simp] theorem PlatformPair.forLanguage_kotlin {α : Type} (pair : PlatformPair α) :
    pair.forLanguage .kotlin = pair.android := rfl

@[simp] theorem PlatformPair.forLanguage_both {α : Type} (value : α) (language : Language) :
    (both value).forLanguage language = value := by
  cases language <;> rfl

/-! ### Typed fields -/

namespace FieldType

variable (type : FieldType) (name : String) (required : Bool)

/-- What stands before the name of a typed field. -/
def before : PlatformPair String :=
  ⟨if type.nullableObject || required then "@objc dynamic var " else "let ", "var "⟩

/-- What stands between the name of a typed field and its type. -/
def between : PlatformPair String :=
  ⟨if type.nullableObject || required then ": " else " = RealmOptional<", ": "⟩

/-- What stands behind the type of a typed field. -/
def behind : PlatformPair String :=
  if required then ⟨" = " ++ type.defaultValue.ios, " = " ++ type.defaultValue.android⟩
  else ⟨if type.nullableObject then "? = nil" else ">()", "? = null"⟩

/-- A typed field in Swift, cut into its parts around the name and the type. -/
theorem ios_declaration : (type.declaration name required).ios =
    (type.before required).ios ++ (name ++ ((type.between required).ios ++
      (type.typeName.ios ++ (type.behind required).ios))) := by
  rw [declaration, before, between, behind]
  cases type.nullableObject <;> cases required <;>
    simp [nullLiteral, toString, String.append_assoc]

theorem android_declaration : (type.declaration name required).android =
    (type.before required).android ++ (name ++ ((type.between required).android ++
      (type.typeName.android ++ (type.behind required).android))) := by
  rw [declaration, before, between, behind]
  cases type.nullableObject <;> cases required <;>
    simp [nullLiteral, toString, String.append_assoc]

end FieldType

/-! ### Parts -/

namespace ShapeOutline

/-- How the fields of a given kind are declared. -/
def typeOf (kind : GivenKind) : FieldType := (kind.kind?.getD .string).fieldType

/-- Whether it is a relation to many. -/
def isListRelation : ShapeOutline → Bool
  | toMany _ => true
  | _ => false

/-- Whether it is a backlink. -/
def isBacklink : ShapeOutline → Bool
  | inverse .. => true
  | _ => false

/-- What stands before the name in a declaration. -/
def before : ShapeOutline → PlatformPair String
  | typed kind required => (typeOf kind).before required
  | toOne _ => ⟨"@objc dynamic var ", "var "⟩
  | toMany _ => ⟨"let ", "val "⟩
  | inverse _ forward isPrivate =>
    let modifier := if isPrivate then "private " else ""
    ⟨modifier ++ "let ", "@LinkingObjects(\"" ++ (forward ++ ("\") " ++ (modifier ++ "val ")))⟩

/-- What stands between the name and the type in a declaration. -/
def between : ShapeOutline → PlatformPair String
  | typed kind required => (typeOf kind).between required
  | toOne _ => ⟨": ", ": "⟩
  | toMany _ => ⟨" = List<", ": RealmList<"⟩
  | inverse .. => ⟨" = LinkingObjects(fromType: ", ": RealmResults<"⟩

/-- The type in a declaration: that of a field, or the model that a relation leads to. -/
def typeName : ShapeOutline → PlatformPair String
  | typed kind _ => (typeOf kind).typeName
  | toOne target | toMany target | inverse target .. => .both target

/-- What stands behind the type in a declaration. -/
def behind : ShapeOutline → PlatformPair String
  | typed kind required => (typeOf kind).behind required
  | toOne _ => ⟨"? = nil", "? = null"⟩
  | toMany _ => ⟨">()", "> = RealmList()"⟩
  | inverse _ forward _ => ⟨".self, property: \"" ++ (forward ++ "\")"), ">? = null"⟩

variable (shape : ShapeOutline) (name : String)

/-- A declaration in Swift, cut into its parts around the name and the type. -/
theorem ios_declared : (shape.declared name).ios =
    shape.before.ios ++ (name ++ (shape.between.ios ++ (shape.typeName.ios ++ shape.behind.ios))) := by
  cases shape with
  | typed kind required => exact (typeOf kind).ios_declaration name required
  | toOne target =>
    show "@objc dynamic var " ++ name ++ ": " ++ target ++ "? = " ++ "nil" =
      "@objc dynamic var " ++ (name ++ (": " ++ (target ++ "? = nil")))
    simp [String.append_assoc]
  | toMany target =>
    show "let " ++ name ++ " = List<" ++ target ++ ">()" =
      "let " ++ (name ++ (" = List<" ++ (target ++ ">()")))
    simp [String.append_assoc]
  | inverse target forward isPrivate =>
    show (if isPrivate then "private " else "") ++ "let " ++ name ++
        " = LinkingObjects(fromType: " ++ target ++ ".self, property: \"" ++ forward ++ "\")" =
      (if isPrivate then "private " else "") ++ "let " ++ (name ++
        (" = LinkingObjects(fromType: " ++ (target ++ (".self, property: \"" ++
          (forward ++ "\")")))))
    simp [String.append_assoc]

theorem android_declared : (shape.declared name).android =
    shape.before.android ++ (name ++ (shape.between.android ++
      (shape.typeName.android ++ shape.behind.android))) := by
  cases shape with
  | typed kind required => exact (typeOf kind).android_declaration name required
  | toOne target =>
    show "var " ++ name ++ ": " ++ target ++ "? = " ++ "null" =
      "var " ++ (name ++ (": " ++ (target ++ "? = null")))
    simp [String.append_assoc]
  | toMany target =>
    show "val " ++ name ++ (": " ++ "RealmList<") ++ target ++ "> = RealmList()" =
      "val " ++ (name ++ (": RealmList<" ++ (target ++ "> = RealmList()")))
    simp [String.append_assoc]
  | inverse target forward isPrivate =>
    show "@LinkingObjects(\"" ++ forward ++ "\") " ++ (if isPrivate then "private " else "") ++
        "val " ++ name ++ (": " ++ "RealmResults<") ++ target ++ ">? = null" =
      "@LinkingObjects(\"" ++ (forward ++ ("\") " ++ ((if isPrivate then "private " else "") ++
        "val "))) ++ (name ++ (": RealmResults<" ++ (target ++ ">? = null")))
    simp [String.append_assoc]

/-- A declaration is made of its parts. -/
theorem forLanguage_declared (language : Language) : (shape.declared name).forLanguage language =
    shape.before.forLanguage language ++ (name ++ (shape.between.forLanguage language ++
      (shape.typeName.forLanguage language ++ shape.behind.forLanguage language))) := by
  cases language with
  | swift => exact shape.ios_declared name
  | kotlin => exact shape.android_declared name

/-- A declaration in Swift begins in one of three ways. -/
theorem before_ios_mem :
    shape.before.ios ∈ ["@objc dynamic var ", "let ", "private let "] := by
  cases shape with
  | typed kind required =>
    rw [before, FieldType.before]
    dsimp only
    split <;> simp
  | toOne target => simp [before]
  | toMany target => simp [before]
  | inverse target forward isPrivate => cases isPrivate <;> simp [before]

/-- What stands before the name in Kotlin tells list relations and backlinks from all else. -/
theorem sort_eq_of_before_append {x y : ShapeOutline} {rest rest' : String}
    (h : x.before.android ++ rest = y.before.android ++ rest') :
    x.isListRelation = y.isListRelation ∧ x.isBacklink = y.isBacklink := by
  rw [← String.toList_inj] at h
  cases x <;> cases y <;> simp [before, FieldType.before, isListRelation, isBacklink] at h ⊢

/-- How a declaration in Kotlin begins tells lists and backlinks from the rest. -/
theorem sort_eq_of_before_eq {x y : ShapeOutline} (h : x.before.android = y.before.android) :
    x.isListRelation = y.isListRelation ∧ x.isBacklink = y.isBacklink :=
  sort_eq_of_before_append (congrArg (· ++ "") h)

end ShapeOutline

/-! ### Marks -/

/-- Whether a text starts as declarations do in Kotlin, and as no mark does. -/
def Unmarked (line : String) : Prop :=
  ∃ rest, line.toList = 'v' :: 'a' :: rest ∨ line.toList = '@' :: 'L' :: rest

/-- A declaration in Kotlin could not be taken for a mark. -/
theorem ShapeOutline.unmarked_declared (shape : ShapeOutline) (name : String) :
    Unmarked (shape.declared name).android := by
  rw [android_declared]
  cases shape <;> simp [Unmarked, before, FieldType.before]

/-- Whether a line in Kotlin carries a mark: at its start, or behind the mark of an indexed
property.  Anywhere else the text of a mark is a part of a name. -/
def carries (mark line : String) : Bool :=
  mark.toList.isPrefixOf line.toList || (indexMark ++ mark).toList.isPrefixOf line.toList

variable {indexed indexed' isKey isKey' : Bool} {x y : String}

/-- Behind the marks nothing counts as the mark of the index. -/
theorem carries_indexMark (hx : Unmarked x) :
    carries indexMark (marks indexed isKey ++ x) = indexed := by
  obtain ⟨rest, hx | hx⟩ := hx <;> cases indexed <;> cases isKey <;>
    simp [carries, marks, indexMark, primaryKeyMark, hx, List.isPrefixOf]

/-- Behind the marks nothing counts as the mark of a key. -/
theorem carries_primaryKeyMark (hx : Unmarked x) :
    carries primaryKeyMark (marks indexed isKey ++ x) = isKey := by
  obtain ⟨rest, hx | hx⟩ := hx <;> cases indexed <;> cases isKey <;>
    simp [carries, marks, indexMark, primaryKeyMark, hx, List.isPrefixOf]

/-- Marks and the declaration behind them can be told from the line that they make. -/
theorem marks_append_inj (hx : Unmarked x) (hy : Unmarked y)
    (h : marks indexed isKey ++ x = marks indexed' isKey' ++ y) :
    indexed = indexed' ∧ isKey = isKey' ∧ x = y := by
  have hindexed : indexed = indexed' := by
    have hcarries := congrArg (carries indexMark) h
    rwa [carries_indexMark hx, carries_indexMark hy] at hcarries
  have hkey : isKey = isKey' := by
    have hcarries := congrArg (carries primaryKeyMark) h
    rwa [carries_primaryKeyMark hx, carries_primaryKeyMark hy] at hcarries
  subst hindexed hkey
  exact ⟨rfl, rfl, (String.append_right_inj _).1 h⟩

namespace PropertyOutline

theorem carries_indexMark_kotlin (p : PropertyOutline) : carries indexMark p.kotlin = p.indexed :=
  carries_indexMark (p.shape.unmarked_declared p.name)

theorem carries_primaryKeyMark_kotlin (p : PropertyOutline) :
    carries primaryKeyMark p.kotlin = p.isKey :=
  carries_primaryKeyMark (p.shape.unmarked_declared p.name)

end PropertyOutline

end MobileSchema
