import MobileSchema.Text.CaseMap
import MobileSchema.Text.Words

/-!
# Naming conventions

A name put into each convention of the generated sources: its first letter changed alone, or
its words joined anew.
-/

namespace MobileSchema

/-- The text with its first character in upper case. -/
def upperFirstChars : List Char → List Char
  | [] => []
  | c :: cs => upperText [c] ++ cs

/-- The text with its first character in lower case. -/
def lowerFirstChars : List Char → List Char
  | [] => []
  | c :: cs => lowerText [c] ++ cs

/-- A word with a capital at its start and lower case behind it. -/
def capitalized : List Char → List Char
  | [] => []
  | c :: cs => upperText [c] ++ lowerText cs

/-- The words in lower case, joined by underscores. -/
def snakeChars (cs : List Char) : List Char :=
  ['_'].intercalate ((words cs).map lowerText)

/-- The words in upper case, joined by underscores. -/
def screamingChars (cs : List Char) : List Char :=
  ['_'].intercalate ((words cs).map upperText)

/-- The words capitalized, with nothing between them. -/
def pascalChars (cs : List Char) : List Char := (words cs).flatMap capitalized

/-- The words capitalized but for the first letter of all. -/
def camelChars (cs : List Char) : List Char := lowerFirstChars (pascalChars cs)

/-- A naming convention. -/
inductive Convention
  | upperFirst | lowerFirst | snake | screamingSnake | pascal | camel
  deriving DecidableEq, Repr

/-- The conventions in the order in which they are offered. -/
def Convention.all : List Convention :=
  [.upperFirst, .lowerFirst, .snake, .screamingSnake, .pascal, .camel]

/-- The name under which a convention is offered. -/
def Convention.name : Convention → String
  | .upperFirst => "upper_first"
  | .lowerFirst => "lower_first"
  | .snake => "snake_case"
  | .screamingSnake => "screaming_snake_case"
  | .pascal => "pascal_case"
  | .camel => "camel_case"

/-- A text put into a convention. -/
def Convention.applyChars : Convention → List Char → List Char
  | .upperFirst => upperFirstChars
  | .lowerFirst => lowerFirstChars
  | .snake => snakeChars
  | .screamingSnake => screamingChars
  | .pascal => pascalChars
  | .camel => camelChars

/-- A text put into a convention. -/
def Convention.apply (convention : Convention) (s : String) : String :=
  String.ofList (convention.applyChars s.toList)

theorem Convention.mem_all (convention : Convention) : convention ∈ Convention.all := by
  cases convention <;> decide

end MobileSchema
