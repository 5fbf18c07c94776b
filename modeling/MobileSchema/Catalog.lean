import MobileSchema.Document.Value

/-!
# Languages and field kinds

The two languages that sources are written in, and the kinds of a typed field with their type name
and default value in each language.
-/

namespace MobileSchema

/-! ### Languages -/

/-- A language that sources are written in. -/
inductive Language
  | swift | kotlin
  deriving DecidableEq, Repr

/-- The name by which a language is chosen. -/
def Language.value : Language → String
  | .swift => "swift"
  | .kotlin => "kotlin"

/-- The name of a language as a constant. -/
def Language.constant : Language → String
  | .swift => "SWIFT"
  | .kotlin => "KOTLIN"

/-- The name of a language's own template. -/
def Language.templateName : Language → String
  | .swift => "swift.j2"
  | .kotlin => "kotlin.j2"

/-- Whether a language is written for the first platform. -/
def Language.isIos : Language → Bool
  | .swift => true
  | .kotlin => false

/-- The languages. -/
def Language.all : List Language := [.swift, .kotlin]

/-- The language that a text names. -/
def Language.ofText? (s : String) : Option Language := all.find? (·.value = s)

/-- The language that a value names. -/
def Language.ofValue? : Value → Option Language
  | .text s => ofText? s
  | _ => none

theorem Language.mem_all (language : Language) : language ∈ all := by
  cases language <;> decide

theorem Language.ofText?_value (language : Language) :
    ofText? language.value = some language := by
  cases language <;> decide

/-! ### Pairs -/

/-- One thing for each platform. -/
structure PlatformPair (α : Type) where
  ios : α
  android : α
  deriving DecidableEq, Repr

/-- The same thing for both platforms. -/
def PlatformPair.both {α : Type} (value : α) : PlatformPair α := ⟨value, value⟩

/-- The thing for the platform of a language. -/
def PlatformPair.forLanguage {α : Type} (pair : PlatformPair α) (language : Language) : α :=
  if language.isIos then pair.ios else pair.android

/-- The literal of the absent value. -/
def nullLiteral : PlatformPair String := ⟨"nil", "null"⟩

/-! ### Field kinds -/

/-- The kind of a typed field. -/
inductive FieldKind
  | string | int32 | int64 | bool | float32 | float64 | date | binary
  deriving DecidableEq, Repr

/-- The name by which a kind is chosen. -/
def FieldKind.value : FieldKind → String
  | .string => "string"
  | .int32 => "int32"
  | .int64 => "int64"
  | .bool => "bool"
  | .float32 => "float32"
  | .float64 => "float64"
  | .date => "date"
  | .binary => "binary"

/-- The name of a kind as a constant. -/
def FieldKind.constant : FieldKind → String
  | .string => "STRING"
  | .int32 => "INT32"
  | .int64 => "INT64"
  | .bool => "BOOL"
  | .float32 => "FLOAT32"
  | .float64 => "FLOAT64"
  | .date => "DATE"
  | .binary => "BINARY"

/-- The kinds in the order of the catalog. -/
def FieldKind.all : List FieldKind :=
  [.string, .int32, .int64, .bool, .float32, .float64, .date, .binary]

/-- The kind that a text names. -/
def FieldKind.ofText? (s : String) : Option FieldKind := all.find? (·.value = s)

/-- The kind that a value names. -/
def FieldKind.ofValue? : Value → Option FieldKind
  | .text s => ofText? s
  | _ => none

theorem FieldKind.mem_all (kind : FieldKind) : kind ∈ all := by
  cases kind <;> decide

theorem FieldKind.ofText?_value (kind : FieldKind) : ofText? kind.value = some kind := by
  cases kind <;> decide

/-- How a kind of field is declared. -/
structure FieldType where
  kind : FieldKind
  typeName : PlatformPair String
  defaultValue : PlatformPair String
  /-- whether the type can hold the absent value on both platforms; the first platform has to wrap
  the other types for that -/
  nullableObject : Bool
  deriving DecidableEq, Repr

/-- How the fields of a kind are declared. -/
def FieldKind.fieldType (kind : FieldKind) : FieldType :=
  match kind with
  | .string => ⟨kind, ⟨"String", "String"⟩, ⟨"\"\"", "\"\""⟩, true⟩
  | .int32 => ⟨kind, ⟨"Int32", "Int"⟩, ⟨"0", "0"⟩, false⟩
  | .int64 => ⟨kind, ⟨"Int64", "Long"⟩, ⟨"0", "0L"⟩, false⟩
  | .bool => ⟨kind, ⟨"Bool", "Boolean"⟩, ⟨"false", "false"⟩, false⟩
  | .float32 => ⟨kind, ⟨"Float", "Float"⟩, ⟨"0.0", "0.0f"⟩, false⟩
  | .float64 => ⟨kind, ⟨"Double", "Double"⟩, ⟨"0.0", "0.0"⟩, false⟩
  | .date => ⟨kind, ⟨"Date", "Date"⟩, ⟨"Date()", "Date()"⟩, true⟩
  | .binary => ⟨kind, ⟨"Data", "ByteArray"⟩, ⟨"Data()", "byteArrayOf()"⟩, true⟩

/-- How the fields of each kind are declared, in the order of the catalog. -/
def catalog : List FieldType := FieldKind.all.map FieldKind.fieldType

end MobileSchema
