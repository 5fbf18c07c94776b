import MobileSchema.Template.Fault

/-!
# Sorts of refusals

What is wrong when the use of an object is refused: its type, its value, or what else.  Some parts
of rendering go on where an object has a wrong type, so this is a question that rendering itself
asks.
-/

namespace MobileSchema.Template

/-- What is wrong when a use is refused. -/
inductive FaultSort
  /-- an object has a type that does not allow the use -/
  | type
  /-- the type is right, but the value is not -/
  | value
  /-- a table lacks an entry -/
  | entry
  /-- a sequence lacks a place -/
  | place
  /-- a number is too large -/
  | size
  /-- a number is divided by zero -/
  | zero
  /-- a name is not known where a template is run -/
  | name
  /-- an object lacks an attribute -/
  | attribute
  /-- what has to hold of an argument does not -/
  | condition
  /-- there is nothing to work on -/
  | emptiness
  /-- a filter refuses an argument in its own words -/
  | filter
  deriving DecidableEq, Repr

/-- What is wrong when a text cannot be filled in. -/
def FormatFault.sort : FormatFault → FaultSort
  | tooFew | tooMany | needsMapping | starNeedsInteger | needsNumber .. | needsReal _
  | needsCharacter | noFormat _ => .type
  | beyond _ => .place
  | characterRange | tooLong | tooLongPrecision => .size
  | _ => .value

/-- What is wrong when a use is refused. -/
def UseFault.sort : UseFault → FaultSort
  | notIntegerText _ | notFractionText _ | endlessJson | notInList _ | notInTuple | notInSpan _
  | notInSequence | notFound | zeroStep | sliceStep | entryLength .. | tooManyDigits
  | sharedOut .. | emptySeparator | unequalTables | longKey | characterCode | tagAttribute _
  | noWidth _ | notWhole false | notQuotient false => .value
  | noEntry _ | emptyTable => .entry
  | emptyList | popBeyond | beyondEnd _ => .place
  | quotientTooLarge | powerTooLarge | roundedTooLarge | integerTooLarge | tooLarge | tooMany
  | notWhole true | notQuotient true => .size
  | byZero .. => .zero
  | noLiteral _ => .name
  | noMember _ => .attribute
  | tooShort .. | negativeLeeway _ => .condition
  | nothingToCycle => .emptiness
  | filter _ => .filter
  | format fault => fault.sort
  | _ => .type

/-- Whether a fault means that an object has a type that does not allow its use. -/
def RenderFault.isOfType : RenderFault → Bool
  | use fault => fault.sort = .type
  | call _ | offer _ => true
  | raised error => error.type = "TypeError"
  | schema (.unexpectedOption ..) | schema (.repeatedOption ..) | schema (.notCallable _) => true
  | _ => false

end MobileSchema.Template
