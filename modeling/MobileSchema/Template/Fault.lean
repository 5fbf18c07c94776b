import MobileSchema.Settings.Load
import MobileSchema.Template.Format.Fault
import MobileSchema.Template.Lexeme
import MobileSchema.Template.Object
import MobileSchema.Template.Tree

/-!
# Faults of rendering

Why a source cannot be rendered: its settings cannot be loaded, its schema is refused, its template
is not found or malformed, or the template uses an object in a way that the object does not allow.
-/

namespace MobileSchema.Template

/-! ### Calls -/

/-- How many arguments a function takes by place. -/
inductive Room
  | nothing | one
  | between (least most : Nat)
  deriving DecidableEq, Repr

/-- Why the arguments of a call are refused. -/
inductive CallFault
  /-- an argument by a name that the call does not know -/
  | unexpected (call name : String)
  /-- an argument that is given twice -/
  | repeated (call name : String)
  /-- more arguments by place than from `least` to `most`, with others by name beside them -/
  | tooMany (call : String) (least most given named : Nat)
  /-- arguments that are missing -/
  | missing (call : String) (names : List String)
  /-- a simple function takes another number of arguments -/
  | room (type call : String) (room : Room) (given : Nat)
  /-- a simple function takes no arguments by name -/
  | noNames (type call : String)
  /-- a simple function takes no arguments by place -/
  | noPlaces (call : String)
  /-- a simple function takes at least or at most so many arguments -/
  | bounded (call : String) (least most given : Nat)
  /-- a simple function knows no argument by a name -/
  | unknownName (call name : String)
  /-- an argument of a simple function is given by name and by place -/
  | namedAndPlaced (call name : String) (place : Nat)
  /-- a method of texts is called without a text -/
  | noReceiver (call : String)
  /-- an argument by name is given again by an entry of a table -/
  | repeatedName (call name : String)
  deriving DecidableEq, Repr

/-- Names with commas and `and` between them. -/
def listing : List String → String
  | [] => ""
  | [a] => quoted a
  | [a, b] => s!"{quoted a} and {quoted b}"
  | names =>
    ", ".intercalate (names.dropLast.map quoted) ++ ", and " ++ quoted (names.getLast?.getD "")

/-- The ending of a word that counts things. -/
def pluralEnding (n : Nat) : String := if n = 1 then "" else "s"

/-- The message of a refusal. -/
def CallFault.message : CallFault → String
  | unexpected call name => s!"{call}() got an unexpected keyword argument {quoted name}"
  | repeated call name => s!"{call}() got multiple values for argument {quoted name}"
  | tooMany call least most given named =>
    let range := if least = most then toString most else s!"from {least} to {most}"
    let ending := if least = most then pluralEnding most else "s"
    let beside := if named = 0 then ""
      else s!" positional argument{pluralEnding given} (and {named} keyword-only " ++
        s!"argument{pluralEnding named})"
    let verb := if given = 1 && named = 0 then "was" else "were"
    s!"{call}() takes {range} positional argument{ending} but {given}{beside} {verb} given"
  | missing call names =>
    s!"{call}() missing {names.length} required positional " ++
      s!"argument{pluralEnding names.length}: {listing names}"
  | room type call .nothing given => s!"{type}{call}() takes no arguments ({given} given)"
  | room type call .one given => s!"{type}{call}() takes exactly one argument ({given} given)"
  | room _ call (.between least most) given =>
    let bound := if given < least then least else most
    let word := if least = most then "" else if given < least then "at least " else "at most "
    s!"{call} expected {word}{bound} argument{pluralEnding bound}, got {given}"
  | noNames type call => s!"{type}{call}() takes no keyword arguments"
  | noPlaces call => s!"{call}() takes no positional arguments"
  | bounded call least most given =>
    let bound := if given < least then least else most
    let word := if least = most then "exactly" else if given < least then "at least" else "at most"
    s!"{call}() takes {word} {bound} argument{pluralEnding bound} ({given} given)"
  | unknownName call name => s!"{quoted name} is an invalid keyword argument for {call}()"
  | namedAndPlaced call name place =>
    s!"argument for {call}() given by name ({quoted name}) and position ({place})"
  | noReceiver call => s!"unbound method {call}() needs an argument"
  | repeatedName call name => s!"{call}() got multiple values for keyword argument {quoted name}"

/-! ### Uses -/

/-- Why a filter refuses what it is given. -/
inductive FilterFault
  /-- entries are sorted by keys or by values -/
  | sortedBy
  | roundingMethod
  /-- there is neither a filter nor an attribute to apply to the items -/
  | nothingToApply
  | unexpectedName (name : String)
  /-- the name of an attribute is missing -/
  | missingAttribute
  /-- a format is given arguments by place and by name -/
  | mixedArguments
  | notIterable
  /-- the beginning of an address, as messages show it -/
  | addressScheme (shown : String)
  deriving DecidableEq, Repr

/-- The message of a refusal. -/
def FilterFault.message : FilterFault → String
  | sortedBy => "You can only sort by either \"key\" or \"value\""
  | roundingMethod => "method must be common, ceil or floor"
  | nothingToApply => "map requires a filter argument"
  | unexpectedName name => s!"Unexpected keyword argument {quoted name}"
  | missingAttribute => "Missing parameter for attribute name"
  | mixedArguments => "can't handle positional and keyword arguments at the same time"
  | notIterable => "argument must be iterable"
  | addressScheme shown => s!"{shown} is not a valid URI scheme prefix."

/-- Why the use of an object is refused; types are given by their names. -/
inductive UseFault
  | notCallable (type : String)
  | notIterable (type : String)
  | notReversible (type : String)
  | noLength (type : String)
  | notSubscriptable (type : String)
  /-- what makes objects of a type is taken for one of them -/
  | makerNotSubscriptable (type : String)
  | notHashable (type : String)
  /-- a text function refuses what is no text, in its own words -/
  | notText (message : String)
  /-- one of the texts that another may begin or end with is no text -/
  | notTextAmong (call type : String)
  /-- an argument is of another type than is expected -/
  | wrongArgument (expected type : String)
  /-- what is stripped off a text is no text -/
  | notStripped (call : String)
  /-- what a text is filled up with is no single character -/
  | notOneCharacter
  | notInteger (type : String)
  /-- an object is neither a number nor a text, where an integer is made of it -/
  | notWholeNumber (type : String)
  /-- an object is neither a number nor a text, where a fraction is made of it -/
  | notFraction (type : String)
  /-- a text is no integer, as messages show it -/
  | notIntegerText (shown : String)
  /-- a text is no number, as messages show it -/
  | notFractionText (shown : String)
  | notRounded (type : String)
  | notJson (type : String)
  /-- the key of a table is nothing that can be the name of an entry -/
  | notJsonKey (type : String)
  | endlessJson
  | notMapping
  /-- a table has no entry for a key, as messages show it -/
  | noEntry (key : String)
  | emptyTable
  | emptyList
  | popBeyond
  /-- a list has no such item, as messages show it -/
  | notInList (item : String)
  | notInTuple
  | notInSpan (item : String)
  | notInSequence
  | notFound
  | zeroStep
  | sliceStep
  | sliceBound
  | placeBound
  /-- an entry for a table has another number of parts than two -/
  | entryLength (place length : Nat)
  /-- an entry for a table has no parts -/
  | entryNotSequence (place : Nat)
  | unsupported (sign left right : String)
  | badOperand (sign type : String)
  | badArgument (call type : String)
  | concatenation (first second : String)
  | repetition (type : String)
  | byZero (fractions : Bool) (operation : Operation)
  /-- a quotient or power of whole numbers is too large for a fraction -/
  | quotientTooLarge
  | powerTooLarge
  | roundedTooLarge
  /-- a whole number is too large for a fraction -/
  | integerTooLarge
  /-- an infinite fraction, or what is no number, is no whole number -/
  | notWhole (infinite : Bool)
  /-- an infinite fraction, or what is no number, is no quotient of whole numbers -/
  | notQuotient (infinite : Bool)
  | notOrdered (sign left right : String)
  | notContainer (type : String)
  | notTextInText (type : String)
  | sumOfTexts
  | notRecursive
  /-- a whole number does not fit where places are counted -/
  | tooLarge
  /-- a whole number does not fit where items are repeated -/
  | tooMany
  /-- a whole number has too many digits to be written -/
  | tooManyDigits
  /-- an infinite fraction, or what is no number, stands in a template outside outputs -/
  | noLiteral (name : String)
  | notSequenceJoined (place : Nat) (type : String)
  | notIterableJoined
  | emptySeparator
  | noItemsToCycle
  | nothingToCycle
  | unequalTables
  | tableForText
  | textForTables
  /-- the key of a table for characters is no single character -/
  | longKey
  /-- the key of a table for characters is neither a text nor an integer -/
  | oddKey
  | characterCode
  | characterSort
  /-- a name of an attribute of a tag has characters that end it -/
  | tagAttribute (name : String)
  /-- a text is shortened to less than what stands for the rest -/
  | tooShort (least : Nat) (given : String)
  | negativeLeeway (given : String)
  /-- more or fewer items than there are names to share them out among -/
  | sharedOut (names items : Nat)
  | notShared (type : String)
  /-- an object lets no entries be put into it -/
  | notChangeable (type : String)
  /-- what has its items in places is asked for something else than a place -/
  | notPlace (holder type : String)
  /-- a sequence, as messages name it, has no such place -/
  | beyondEnd (holder : String)
  /-- an object has no items that could be so many arguments -/
  | notSpread (type : String)
  /-- an object has no entries that could be so many arguments of a function -/
  | notSpreadEntries (call type : String)
  | nameNotText
  /-- a routine knows no parameter of a name -/
  | routineName (routine : String) (name : String)
  /-- a routine has fewer parameters -/
  | routinePlaces (routine : String) (most : Nat)
  /-- a routine is given two bodies to call -/
  | routineCaller (routine : String)
  /-- lines are to be broken at a width, as messages show it, at which there are none -/
  | noWidth (shown : String)
  /-- there is no value under a name -/
  | noMember (name : String)
  /-- what names an attribute is no text -/
  | attributeName (type : String)
  | filter (fault : FilterFault)
  | format (fault : FormatFault)
  deriving DecidableEq, Repr

/-- The message of a refusal. -/
def UseFault.message : UseFault → String
  | notCallable type => s!"{quoted type} object is not callable"
  | notIterable type => s!"{quoted type} object is not iterable"
  | notReversible type => s!"{quoted type} object is not reversible"
  | noLength type => s!"object of type {quoted type} has no len()"
  | makerNotSubscriptable type => s!"type {quoted type} is not subscriptable"
  | notSubscriptable type => s!"{quoted type} object is not subscriptable"
  | notHashable type => s!"unhashable type: {quoted type}"
  | notText message => message
  | notTextAmong call type => s!"tuple for {call} must only contain str, not {type}"
  | wrongArgument expected type => s!"{expected}, not {type}"
  | notStripped call => s!"{call} arg must be None or str"
  | notOneCharacter => "The fill character must be exactly one character long"
  | notInteger type => s!"{quoted type} object cannot be interpreted as an integer"
  | notWholeNumber type =>
    s!"int() argument must be a string, a bytes-like object or a real number, not {quoted type}"
  | notFraction type => s!"float() argument must be a string or a real number, not {quoted type}"
  | notIntegerText shown => s!"invalid literal for int() with base 10: {shown}"
  | notFractionText shown => s!"could not convert string to float: {shown}"
  | notRounded type => s!"type {type} doesn't define __round__ method"
  | notJsonKey type => s!"keys must be str, int, float, bool or None, not {type}"
  | notJson type => s!"Object of type {type} is not JSON serializable"
  | endlessJson => "Circular reference detected"
  | notMapping => "Can only get item pairs from a mapping."
  | noEntry key => key
  | emptyTable => quoted "popitem(): dictionary is empty"
  | emptyList => "pop from empty list"
  | popBeyond => "pop index out of range"
  | notInList item => s!"{item} is not in list"
  | notInTuple => "tuple.index(x): x not in tuple"
  | notInSpan item => s!"{item} is not in range"
  | notInSequence => "sequence.index(x): x not in sequence"
  | notFound => "substring not found"
  | zeroStep => "range() arg 3 must not be zero"
  | sliceStep => "slice step cannot be zero"
  | sliceBound => "slice indices must be integers or None or have an __index__ method"
  | placeBound => "slice indices must be integers or have an __index__ method"
  | entryLength place length =>
    s!"dictionary update sequence element #{place} has length {length}; 2 is required"
  | entryNotSequence place =>
    s!"cannot convert dictionary update sequence element #{place} to a sequence"
  | unsupported sign left right =>
    s!"unsupported operand type(s) for {sign}: {quoted left} and {quoted right}"
  | badOperand sign type => s!"bad operand type for unary {sign}: {quoted type}"
  | badArgument call type => s!"bad operand type for {call}(): {quoted type}"
  | concatenation first second => s!"can only concatenate {first} (not \"{second}\") to {first}"
  | repetition type => s!"can't multiply sequence by non-int of type {quoted type}"
  | byZero false .floorDivide => "integer division or modulo by zero"
  | byZero false .remainder => "integer modulo by zero"
  | byZero _ .power => "0.0 cannot be raised to a negative power"
  | byZero false _ => "division by zero"
  | byZero true .floorDivide => "float floor division by zero"
  | byZero true .remainder => "float modulo"
  | byZero true _ => "float division by zero"
  | quotientTooLarge => "integer division result too large for a float"
  | powerTooLarge => "(34, 'Numerical result out of range')"
  | roundedTooLarge => "rounded value too large to represent"
  | integerTooLarge => "int too large to convert to float"
  | notWhole infinite =>
    if infinite then "cannot convert float infinity to integer"
    else "cannot convert float NaN to integer"
  | notQuotient infinite =>
    if infinite then "cannot convert Infinity to integer ratio"
    else "cannot convert NaN to integer ratio"
  | notOrdered sign left right =>
    s!"{quoted sign} not supported between instances of {quoted left} and {quoted right}"
  | notContainer type => s!"argument of type {quoted type} is not iterable"
  | notTextInText type => s!"'in <string>' requires string as left operand, not {type}"
  | sumOfTexts => "sum() can't sum strings [use ''.join(seq) instead]"
  | notRecursive => "The loop must have the 'recursive' marker to be called recursively."
  | tooLarge => "Python int too large to convert to C ssize_t"
  | tooMany => "cannot fit 'int' into an index-sized integer"
  | tooManyDigits =>
    s!"Exceeds the limit ({digitLimit} digits) for integer string conversion; " ++
      "use sys.set_int_max_str_digits() to increase the limit"
  | noLiteral name => s!"name {quoted name} is not defined"
  | notSequenceJoined place type => s!"sequence item {place}: expected str instance, {type} found"
  | notIterableJoined => "can only join an iterable"
  | emptySeparator => "empty separator"
  | noItemsToCycle => "no items for cycling given"
  | nothingToCycle => "at least one item has to be provided"
  | unequalTables => "the first two maketrans arguments must have equal length"
  | tableForText => "if you give only one argument to maketrans it must be a dict"
  | textForTables =>
    "first maketrans argument must be a string if there is a second argument"
  | longKey => "string keys in translate table must be of length 1"
  | oddKey => "keys in translate table must be strings or integers"
  | characterSort => "character mapping must return integer, None or str"
  | characterCode => "character mapping must be in range(0x110000)"
  | tagAttribute name => s!"Invalid character in attribute name: {name}"
  | tooShort least given => s!"expected length >= {least}, got {given}"
  | negativeLeeway given => s!"expected leeway >= 0, got {given}"
  | sharedOut names items =>
    if names < items then s!"too many values to unpack (expected {names})"
    else s!"not enough values to unpack (expected {names}, got {items})"
  | notShared type => s!"cannot unpack non-iterable {type} object"
  | notChangeable type => s!"{quoted type} object does not support item assignment"
  | notPlace "string" type => s!"string indices must be integers, not {quoted type}"
  | notPlace holder type => s!"{holder} indices must be integers or slices, not {type}"
  | beyondEnd holder => s!"{holder} index out of range"
  | notSpread type => s!"Value after * must be an iterable, not {type}"
  | notSpreadEntries call type => s!"{call}() argument after ** must be a mapping, not {type}"
  | nameNotText => "keywords must be strings"
  | routineName routine name => s!"macro {routine} takes no keyword argument {name}"
  | routinePlaces routine most => s!"macro {routine} takes not more than {most} argument(s)"
  | routineCaller routine =>
    s!"macro {routine} was invoked with two values for the special caller argument. " ++
      "This is most likely a bug."
  | noWidth shown => s!"invalid width {shown} (must be > 0)"
  | noMember name => name
  | attributeName type => s!"attribute name must be string, not {quoted type}"
  | filter fault => fault.message
  | format fault => fault.message

/-! ### All -/

/-- What a template can ask for whose answer is not described here. -/
inductive Undescribed
  /-- what is chosen or made up by chance -/
  | chance
  /-- what becomes of a text with halves of surrogate pairs, beyond putting such texts together,
  taking them apart and comparing them -/
  | halves
  deriving DecidableEq, Repr

/-- Why a source cannot be rendered. -/
inductive RenderFault
  | settings (fault : SettingsFault)
  /-- an operation on a schema is refused -/
  | schema (fault : SchemaFault)
  | offer (fault : NotApplicable)
  /-- there is no template of this name -/
  | notFound (name : String)
  /-- there is no template of any of these names -/
  | noneFound (names : List String)
  /-- the name of a template is to be chosen from none -/
  | nothingToChoose
  /-- the file of a template is no text -/
  | notText
  /-- a template cannot be read -/
  | reading (fault : ReadFault)
  /-- a filter that there is not, found before rendering starts -/
  | unknownFilter (name : String)
  /-- a test that there is not, found before rendering starts -/
  | unknownTest (name : String)
  /-- a loop gives a value to the name of its place -/
  | placeAssigned
  /-- two blocks of a template have one name -/
  | repeatedBlock (name : String)
  /-- a template is extended inside something -/
  | extendedInside
  /-- the parameter for a body to call has no value for the case that it is not given -/
  | callerParameter
  /-- a name is known to no scope around -/
  | unknownName (name : String)
  /-- a template extends two templates -/
  | extendedTwice
  /-- no template gives a block that is required -/
  | requiredBlock (name : String)
  /-- a filter or test of a name, as messages show it, is to be applied to items; the name can be
  missing itself -/
  | noSuch (sort name : String) (cause : Option Absence)
  /-- a template gives a value to an attribute of an object -/
  | memberAssigned
  /-- a filter that there is not, in a part that may be passed over -/
  | missingFilter (name : String)
  /-- a test that there is not, in a part that may be passed over -/
  | missingTest (name : String)
  /-- an undefined object is used -/
  | undefined (cause : Absence)
  | call (fault : CallFault)
  | use (fault : UseFault)
  /-- a text function raises an error of its own -/
  | raised (error : Raised)
  /-- what is rendered is no text, since halves of surrogate pairs are in it; by the numbers of its
  characters -/
  | halved (codes : List Nat)
  | undescribed (what : Undescribed)
  /-- templates embed each other without end -/
  | endless
  deriving DecidableEq, Repr

/-- The message of a fault. -/
def RenderFault.message : RenderFault → String
  | settings fault => fault.message
  | schema fault => fault.message
  | offer fault => fault.message
  | notFound name => name
  | noneFound names => "none of the templates given were found: " ++ ", ".intercalate names
  | nothingToChoose => "Tried to select from an empty list of templates."
  | notText => "the template is no text"
  | reading fault => fault.message
  | unknownFilter name => s!"No filter named {quoted name}."
  | unknownTest name => s!"No test named {quoted name}."
  | placeAssigned => "Can't assign to special loop variable in for-loop target"
  | repeatedBlock name => s!"block {quoted name} defined twice"
  | extendedInside => "cannot use extend from a non top-level scope"
  | callerParameter =>
    "When defining macros or call blocks the special \"caller\" argument must be omitted or be " ++
      "given a default."
  | unknownName name =>
    s!"Tried to resolve a name to a reference that was unknown to the frame ({quoted name})"
  | extendedTwice => "extended multiple times"
  | requiredBlock name => s!"Required block {quoted name} not found"
  | noSuch sort name none => s!"No {sort} named {name}."
  | noSuch sort name (some cause) =>
    s!"No {sort} named {name}. ({cause.message}; did you forget to quote the callable name?)"
  | memberAssigned => "cannot assign attribute on non-namespace object"
  | missingFilter name => s!"No filter named {quoted name} found."
  | missingTest name => s!"No test named {quoted name} found."
  | undefined cause => cause.message
  | call fault => fault.message
  | use fault => fault.message
  | raised error => error.message
  | halved _ => "the source is no text"
  | undescribed .chance => "the outcome is left to chance"
  | undescribed .halves => "a text with halves of surrogate pairs is changed"
  | endless => "maximum recursion depth exceeded"

/-- What a fault has to note. -/
def RenderFault.log : RenderFault → List LogEntry
  | schema fault => fault.log
  | _ => []

/-- Whether a fault means that there is no such template. -/
def RenderFault.isMissing : RenderFault → Bool
  | notFound _ | noneFound _ | nothingToChoose => true
  | _ => false

/-- Whether a fault means that an object lacks an attribute. -/
def RenderFault.isLack : RenderFault → Bool
  | schema (.noAttribute ..) => true
  | raised error => error.type = "AttributeError"
  | _ => false

end MobileSchema.Template
