import Stencil.Value.Datum

/-!
# Faults

What can go wrong when an expression is evaluated or a collaborator of the engine is called. A
fault has a kind, under which it is reported, and a message; there is one definition for each
cause. Types are given by their names.
-/

namespace Stencil

inductive FaultKind where
  | name
  | noSuchAttribute
  | key
  | index
  | type
  | value
  | zeroDivision
  | overflow
  | stopIteration
  | runtime
  /-- A markup reader that does not exist. -/
  | feature
  | selector
  | rejected
  | notImplemented
  | decoding
  | isDirectory
deriving DecidableEq, Repr

def FaultKind.word : FaultKind → Text
  | .name => "NameError"
  | .noSuchAttribute => "AttributeError"
  | .key => "KeyError"
  | .index => "IndexError"
  | .type => "TypeError"
  | .value => "ValueError"
  | .zeroDivision => "ZeroDivisionError"
  | .overflow => "OverflowError"
  | .stopIteration => "StopIteration"
  | .runtime => "RuntimeError"
  | .feature => "FeatureNotFound"
  | .selector => "SelectorSyntaxError"
  | .rejected => "ParserRejectedMarkup"
  | .notImplemented => "NotImplementedError"
  | .decoding => "UnicodeDecodeError"
  | .isDirectory => "IsADirectoryError"

def FaultKind.isValue : FaultKind → Bool
  | .value | .feature | .decoding => true
  | _ => false

structure Fault where
  kind : FaultKind
  message : Text
deriving DecidableEq, Repr

inductive SequenceKind where
  | list
  | str
  | tuple
  | range
deriving DecidableEq, Repr

namespace SequenceKind

def typeName : SequenceKind → Text
  | list => "list"
  | str => "str"
  | tuple => "tuple"
  | range => "range"

def indexName : SequenceKind → Text
  | list => "list"
  | str => "string"
  | tuple => "tuple"
  | range => "range object"

end SequenceKind

namespace Fault

open Text

/-! ## Names, members and keys -/

def unknownName (n : Text) : Fault := ⟨.name, say ["name '", n, "' is not defined"]⟩

def noMember (type n : Text) : Fault :=
  ⟨.noSuchAttribute, say ["'", type, "' object has no attribute '", n, "'"]⟩

def readOnlyMember (type n : Text) : Fault :=
  ⟨.noSuchAttribute, say ["'", type, "' object attribute '", n, "' is read-only"]⟩

def missingKey (shown : Text) : Fault := ⟨.key, shown⟩

def emptyMapping : Fault := ⟨.key, Text.quoted "popitem(): dictionary is empty"⟩

def emptySet : Fault := ⟨.key, Text.quoted "pop from an empty set"⟩

/-! ## Indices -/

def outOfRange (k : SequenceKind) : Fault := ⟨.index, say [k.indexName, " index out of range"]⟩

def assignOutOfRange : Fault := ⟨.index, "list assignment index out of range"⟩

def popEmpty : Fault := ⟨.index, "pop from empty list"⟩

def popOutOfRange : Fault := ⟨.index, "pop index out of range"⟩

def indexTooLarge : Fault := ⟨.index, "cannot fit 'int' into an index-sized integer"⟩

def indexSized : Fault := ⟨.overflow, "cannot fit 'int' into an index-sized integer"⟩

def badIndex (k : SequenceKind) (type : Text) : Fault :=
  ⟨.type, say [k.typeName, " indices must be integers or slices, not ", type]⟩

def badStringIndex (type : Text) : Fault :=
  ⟨.type, say ["string indices must be integers, not '", type, "'"]⟩

def badSliceIndex : Fault :=
  ⟨.type, "slice indices must be integers or None or have an __index__ method"⟩

def zeroStep : Fault := ⟨.value, "slice step cannot be zero"⟩

def sliceSize (given expected : Nat) : Fault :=
  ⟨.value, say ["attempt to assign sequence of size ", ofNat given,
    " to extended slice of size ", ofNat expected]⟩

def notSubscriptable (type : Text) : Fault :=
  ⟨.type, say ["'", type, "' object is not subscriptable"]⟩

def noItemAssignment (type : Text) : Fault :=
  ⟨.type, say ["'", type, "' object does not support item assignment"]⟩

def noItemDeletion (type : Text) : Fault :=
  ⟨.type, say ["'", type, "' object doesn't support item deletion"]⟩

/-! ## Operators -/

def unsupported (op left right : Text) : Fault :=
  ⟨.type, say ["unsupported operand type(s) for ", op, ": '", left, "' and '", right, "'"]⟩

def notOrdered (op left right : Text) : Fault :=
  ⟨.type, say ["'", op, "' not supported between instances of '", left, "' and '", right, "'"]⟩

def badUnary (op type : Text) : Fault :=
  ⟨.type, say ["bad operand type for unary ", op, ": '", type, "'"]⟩

def onlyConcatenate (k : SequenceKind) (other : Text) : Fault :=
  ⟨.type, say ["can only concatenate ", k.typeName, " (not \"", other, "\") to ", k.typeName]⟩

def repeatBy (other : Text) : Fault :=
  ⟨.type, say ["can't multiply sequence by non-int of type '", other, "'"]⟩

def inString (type : Text) : Fault :=
  ⟨.type, say ["'in <string>' requires string as left operand, not ", type]⟩

def notContainer (type : Text) : Fault :=
  ⟨.type, say ["argument of type '", type, "' is not iterable"]⟩

def unhashable (type : Text) : Fault := ⟨.type, say ["unhashable type: '", type, "'"]⟩

def negativeShift : Fault := ⟨.value, "negative shift count"⟩

def shiftTooLarge : Fault := ⟨.overflow, "too many digits in integer"⟩

def intDivision : Fault := ⟨.zeroDivision, "division by zero"⟩

def integerDivision : Fault := ⟨.zeroDivision, "integer division or modulo by zero"⟩

def integerModulo : Fault := ⟨.zeroDivision, "integer modulo by zero"⟩

def floatDivision : Fault := ⟨.zeroDivision, "float division by zero"⟩

def floatFloorDivision : Fault := ⟨.zeroDivision, "float floor division by zero"⟩

def floatModulo : Fault := ⟨.zeroDivision, "float modulo"⟩

def floatDivmod : Fault := ⟨.zeroDivision, "float divmod()"⟩

def zeroToNegative : Fault := ⟨.zeroDivision, "0.0 cannot be raised to a negative power"⟩

def quotientTooLarge : Fault := ⟨.overflow, "integer division result too large for a float"⟩

def intTooLarge : Fault := ⟨.overflow, "int too large to convert to float"⟩

def resultTooLarge : Fault := ⟨.overflow, "(34, 'Numerical result out of range')"⟩

/-! ## Calls and iteration -/

def notAnException : Fault := ⟨.type, "exceptions must derive from BaseException"⟩

def notCallable (type : Text) : Fault := ⟨.type, say ["'", type, "' object is not callable"]⟩

def notIterable (type : Text) : Fault := ⟨.type, say ["'", type, "' object is not iterable"]⟩

def notIterator (type : Text) : Fault := ⟨.type, say ["'", type, "' object is not an iterator"]⟩

def notReversible (type : Text) : Fault :=
  ⟨.type, say ["'", type, "' object is not reversible"]⟩

def notSpreadable (place type : Text) : Fault :=
  ⟨.type, say [place, " after * must be an iterable, not ", type]⟩

def notMapping (type : Text) : Fault := ⟨.type, say ["'", type, "' object is not a mapping"]⟩

def notMappingArgument (place type : Text) : Fault :=
  ⟨.type, say [place, " after ** must be a mapping, not ", type]⟩

def keywordNotText : Fault := ⟨.type, "keywords must be strings"⟩

def iterationEnded : Fault := ⟨.stopIteration, []⟩

def generatorEnded : Fault := ⟨.runtime, "generator raised StopIteration"⟩

def nothingRaised : Fault := ⟨.runtime, "No active exception to reraise"⟩

def mappingResized : Fault := ⟨.runtime, "dictionary changed size during iteration"⟩

def setResized : Fault := ⟨.runtime, "Set changed size during iteration"⟩

def tooManyValues (expected : Nat) : Fault :=
  ⟨.value, say ["too many values to unpack (expected ", ofNat expected, ")"]⟩

def notEnoughValues (expected : Nat) (atLeast : Bool) (given : Nat) : Fault :=
  ⟨.value, say ["not enough values to unpack (expected ", if atLeast then "at least " else "",
    ofNat expected, ", got ", ofNat given, ")"]⟩

def unpackNotIterable (type : Text) : Fault :=
  ⟨.type, say ["cannot unpack non-iterable ", type, " object"]⟩

def plural (count : Nat) : Text := if count = 1 then "" else "s"

def takesNone (function : Text) (given : Nat) : Fault :=
  ⟨.type, say [function, "() takes no arguments (", ofNat given, " given)"]⟩

def takesOne (function : Text) (given : Nat) : Fault :=
  ⟨.type, say [function, "() takes exactly one argument (", ofNat given, " given)"]⟩

def takesAtLeast (function : Text) (least given : Nat) : Fault :=
  ⟨.type, say [function, " expected at least ", ofNat least, " argument", plural least, ", got ",
    ofNat given]⟩

def takesAtMost (function : Text) (most given : Nat) : Fault :=
  ⟨.type, say [function, " expected at most ", ofNat most, " argument", plural most, ", got ",
    ofNat given]⟩

def takesCount (function : Text) (count given : Nat) : Fault :=
  ⟨.type, say [function, " expected ", ofNat count, " argument", plural count, ", got ",
    ofNat given]⟩

def takesKeywords (function : Text) : Fault :=
  ⟨.type, say [function, "() takes no keyword arguments"]⟩

def unknownKeyword (function keyword : Text) : Fault :=
  ⟨.type, say ["'", keyword, "' is an invalid keyword argument for ", function, "()"]⟩

def unexpectedKeyword (function keyword : Text) : Fault :=
  ⟨.type, say [function, "() got an unexpected keyword argument '", keyword, "'"]⟩

def repeatedArgument (function name : Text) : Fault :=
  ⟨.type, say [function, "() got multiple values for argument '", name, "'"]⟩

def missingParameters (function : Text) (names : List Text) : Fault :=
  ⟨.type, say [function, "() missing ", ofNat names.length, " required positional argument",
    plural names.length, ": ", join " and ".toList (names.map fun n => say ["'", n, "'"])]⟩

def missingParameter (function name : Text) : Fault := missingParameters function [name]

def takesPositional (function : Text) (least most given : Nat) : Fault :=
  ⟨.type, say [function, "() takes ",
    if least < most then say ["from ", ofNat least, " to "] else "", ofNat most,
    " positional argument", plural most, " but ", ofNat given,
    if given = 1 then " was given" else " were given"]⟩

/-! ## Builtin functions -/

def badAbs (type : Text) : Fault := ⟨.type, say ["bad operand type for abs(): '", type, "'"]⟩

def noRound (type : Text) : Fault :=
  ⟨.type, say ["type ", type, " doesn't define __round__ method"]⟩

def notInteger (type : Text) : Fault :=
  ⟨.type, say ["'", type, "' object cannot be interpreted as an integer"]⟩

def noLength (type : Text) : Fault := ⟨.type, say ["object of type '", type, "' has no len()"]⟩

def notNumberForInt (type : Text) : Fault :=
  ⟨.type, say ["int() argument must be a string, a bytes-like object or a real number, not '",
    type, "'"]⟩

def notNumberForFloat (type : Text) : Fault :=
  ⟨.type, say ["float() argument must be a string or a real number, not '", type, "'"]⟩

def baseNeedsText : Fault := ⟨.type, "int() can't convert non-string with explicit base"⟩

def badBase : Fault := ⟨.value, "int() base must be >= 2 and <= 36, or 0"⟩

def badIntText (base : Nat) (t : Text) : Fault :=
  ⟨.value, say ["invalid literal for int() with base ", ofNat base, ": ", Text.quoted t]⟩

def tooManyDigitsToWrite : Fault := ⟨.value, say ["Exceeds the limit (", ofNat Text.maxDigits,
  " digits) for integer string conversion; use sys.set_int_max_str_digits() to increase the limit"]⟩

def tooManyDigitsToRead (given : Nat) : Fault :=
  ⟨.value, say ["Exceeds the limit (", ofNat Text.maxDigits,
    " digits) for integer string conversion: value has ", ofNat given,
    " digits; use sys.set_int_max_str_digits() to increase the limit"]⟩

def badFloatText (t : Text) : Fault :=
  ⟨.value, say ["could not convert string to float: ", Text.quoted t]⟩

def nanToInt : Fault := ⟨.value, "cannot convert float NaN to integer"⟩

def infinityToInt : Fault := ⟨.overflow, "cannot convert float infinity to integer"⟩

def ordNeedsText (type : Text) : Fault :=
  ⟨.type, say ["ord() expected string of length 1, but ", type, " found"]⟩

def ordNeedsOne (length : Nat) : Fault :=
  ⟨.type, say ["ord() expected a character, but string of length ", ofNat length, " found"]⟩

def chrOutOfRange : Fault := ⟨.value, "chr() arg not in range(0x110000)"⟩

def zeroRangeStep : Fault := ⟨.value, "range() arg 3 must not be zero"⟩

def emptyArgument (function : Text) : Fault :=
  ⟨.value, say [function, "() arg is an empty sequence"]⟩

def sumText : Fault := ⟨.type, "sum() can't sum strings [use ''.join(seq) instead]"⟩

def classinfo : Fault :=
  ⟨.type, "isinstance() arg 2 must be a type, a tuple of types, or a union"⟩

def pairLength (index length : Nat) : Fault :=
  ⟨.value, say ["dictionary update sequence element #", ofNat index, " has length ",
    ofNat length, "; 2 is required"]⟩

def pairItem (index : Nat) : Fault :=
  ⟨.type, say ["cannot convert dictionary update sequence element #", ofNat index,
    " to a sequence"]⟩

def zeroModulus : Fault := ⟨.value, "pow() 3rd argument cannot be 0"⟩

def notInvertible : Fault := ⟨.value, "base is not invertible for the given modulus"⟩

/-! ## Methods -/

def notTextItem (index : Nat) (type : Text) : Fault :=
  ⟨.type, say ["sequence item ", ofNat index, ": expected str instance, ", type, " found"]⟩

def joinNeedsIterable : Fault := ⟨.type, "can only join an iterable"⟩

def needsText (function type : Text) : Fault :=
  ⟨.type, say [function, "() argument must be str, not ", type]⟩

def argumentNeedsText (function : Text) (position : Nat) (type : Text) : Fault :=
  ⟨.type, say [function, "() argument ", ofNat position, " must be str, not ", type]⟩

def mustBeText (type : Text) : Fault := ⟨.type, say ["must be str, not ", type]⟩

def stripNeedsText (function : Text) : Fault :=
  ⟨.type, say [function, " arg must be None or str"]⟩

def separatorNeedsText (type : Text) : Fault :=
  ⟨.type, say ["must be str or None, not ", type]⟩

def headNeedsText (function type : Text) : Fault :=
  ⟨.type, say [function, " first arg must be str or a tuple of str, not ", type]⟩

def fillNeedsOne : Fault :=
  ⟨.type, "The fill character must be exactly one character long"⟩

def fillNeedsText (type : Text) : Fault :=
  ⟨.type, say ["The fill character must be a unicode character, not ", type]⟩

def emptySeparator : Fault := ⟨.value, "empty separator"⟩

def substringNotFound : Fault := ⟨.value, "substring not found"⟩

def notInList (shown : Text) : Fault := ⟨.value, say [shown, " is not in list"]⟩

def notInTuple : Fault := ⟨.value, "tuple.index(x): x not in tuple"⟩

def notInRange (shown : Text) : Fault := ⟨.value, say [shown, " is not in range"]⟩

def notRemoved : Fault := ⟨.value, "list.remove(x): x not in list"⟩

/-! ## Formats -/

def replacementOutOfRange (index : Nat) : Fault :=
  ⟨.index, say ["Replacement index ", ofNat index, " out of range for positional args tuple"]⟩

def badFormat (type : Text) : Fault :=
  ⟨.type, say ["unsupported format string passed to ", type, ".__format__"]⟩

def badSpecifier (spec type : Text) : Fault :=
  ⟨.value, say ["Invalid format specifier '", spec, "' for object of type '", type, "'"]⟩

/-- A code that is no visible ASCII character is reported by its code point. -/
def codeText (code : Char) : Text :=
  if 32 < code.toNat ∧ code.toNat < 128 then [code]
  else '\\' :: 'x' :: Nat.toDigits 16 code.toNat

def unknownCode (code : Char) (type : Text) : Fault :=
  ⟨.value, say ["Unknown format code '", codeText code, "' for object of type '", type, "'"]⟩

def missingPrecision : Fault := ⟨.value, "Format specifier missing precision"⟩

def signInText : Fault := ⟨.value, "Sign not allowed in string format specifier"⟩

def negativeZeroInText : Fault :=
  ⟨.value, "Negative zero coercion (z) not allowed in string format specifier"⟩

def spaceInText : Fault := ⟨.value, "Space not allowed in string format specifier"⟩

def alternateInText : Fault :=
  ⟨.value, "Alternate form (#) not allowed in string format specifier"⟩

def alignInText : Fault := ⟨.value, "'=' alignment not allowed in string format specifier"⟩

def precisionInInteger : Fault :=
  ⟨.value, "Precision not allowed in integer format specifier"⟩

def negativeZeroInInteger : Fault :=
  ⟨.value, "Negative zero coercion (z) not allowed in integer format specifier"⟩

def signInCharacter : Fault :=
  ⟨.value, "Sign not allowed with integer format specifier 'c'"⟩

def alternateInCharacter : Fault :=
  ⟨.value, "Alternate form (#) not allowed with integer format specifier 'c'"⟩

def characterOutOfRange : Fault := ⟨.overflow, "%c arg not in range(0x110000)"⟩

def wordTooLarge : Fault := ⟨.overflow, "Python int too large to convert to C long"⟩

def twoGroupings : Fault := ⟨.value, "Cannot specify both ',' and '_'."⟩

def badGrouping (mark code : Char) : Fault :=
  ⟨.value, say ["Cannot specify '", [mark], "' with '", codeText code, "'."]⟩

def tooManyDigits : Fault := ⟨.value, "Too many decimal digits in format string"⟩

def precisionTooLarge : Fault := ⟨.value, "precision too big"⟩

def strayClose : Fault := ⟨.value, "Single '\x7d' encountered in format string"⟩

def strayOpen : Fault := ⟨.value, "Single '\x7b' encountered in format string"⟩

def expectedClose : Fault := ⟨.value, "expected '\x7d' before end of string"⟩

def unexpectedOpen : Fault := ⟨.value, "unexpected '\x7b' in field name"⟩

def switchToAutomatic : Fault :=
  ⟨.value, "cannot switch from manual field specification to automatic field numbering"⟩

def switchToManual : Fault :=
  ⟨.value, "cannot switch from automatic field numbering to manual field specification"⟩

def unknownConversion (c : Char) : Fault :=
  ⟨.value, say ["Unknown conversion specifier ", codeText c]⟩

def endInConversion : Fault :=
  ⟨.value, "end of string while looking for conversion specifier"⟩

def unmatchedInSpec : Fault := ⟨.value, "unmatched '\x7b' in format spec"⟩

def expectedColon : Fault := ⟨.value, "expected ':' after conversion specifier"⟩

def emptyMember : Fault := ⟨.value, "Empty attribute in format string"⟩

def missingBracket : Fault := ⟨.value, "Missing ']' in format string"⟩

def onlyAfterBracket : Fault :=
  ⟨.value, "Only '.' or '[' may follow ']' in format field specifier"⟩

def tooDeep : Fault := ⟨.value, "Max string recursion exceeded"⟩

def notEnoughToFormat : Fault := ⟨.type, "not enough arguments for format string"⟩

def leftToFormat : Fault :=
  ⟨.type, "not all arguments converted during string formatting"⟩

def formatNeedsMapping : Fault := ⟨.type, "format requires a mapping"⟩

def formatNeedsNumber (code : Char) (type : Text) : Fault :=
  ⟨.type, say ["%", [code], " format: a real number is required, not ", type]⟩

def formatNeedsInteger (code : Char) (type : Text) : Fault :=
  ⟨.type, say ["%", [code], " format: an integer is required, not ", type]⟩

def floatNeedsNumber (type : Text) : Fault := ⟨.type, say ["must be real number, not ", type]⟩

def formatNeedsCharacter : Fault := ⟨.type, "%c requires int or char"⟩

def widthNeedsInteger : Fault := ⟨.type, "* wants int"⟩

def incompleteFormat : Fault := ⟨.value, "incomplete format"⟩

def incompleteKey : Fault := ⟨.value, "incomplete format key"⟩

def unsupportedCharacter (code : Char) (index : Nat) : Fault :=
  ⟨.value, say ["unsupported format character '",
    [if 31 ≤ code.toNat ∧ code.toNat ≤ 126 then code else '?'], "' (0x", Nat.toDigits 16 code.toNat,
    ") at index ", ofNat index]⟩

def formatArgument (type : Text) : Fault :=
  ⟨.type, say ["format() argument 2 must be str, not ", type]⟩

/-! ## Dates -/

def yearOutOfRange (year : Nat) : Fault :=
  ⟨.value, say ["year ", ofNat year, " is out of range"]⟩

def monthOutOfRange : Fault := ⟨.value, "month must be in 1..12"⟩

def dayOutOfRange : Fault := ⟨.value, "day is out of range for month"⟩

/-! ## Reports -/

def badFieldName (type : Text) : Fault :=
  ⟨.type, say ["keys must be str, int, float, bool or None, not ", type]⟩

def notReportable (type : Text) : Fault :=
  ⟨.type, say ["Object of type ", type, " is not JSON serializable"]⟩

/-! ## Collaborators of the engine -/

def notAForm (shown : Text) : Fault := ⟨.value, say [shown, " is not a valid SpanForm"]⟩

def noParser (name : Text) : Fault :=
  ⟨.feature, say ["Couldn't find a tree builder with the features you requested: ", name,
    ". Do you need to install a parser library?"]⟩

def markupRejected : Fault := ⟨.rejected, []⟩

def badSelector : Fault := ⟨.selector, []⟩

def unsupportedSelector : Fault := ⟨.notImplemented, []⟩

def undecodable (message : Text) : Fault := ⟨.decoding, message⟩

def directoryFound : Fault := ⟨.isDirectory, []⟩

def badPattern : Fault :=
  ⟨.value, "Invalid pattern: '**' can only be an entire path component"⟩

def unknownInstance (id : Int) : Fault :=
  ⟨.key, Text.quoted (say ["Unknown template instance #", ofInt id])⟩

def notAReference (reference expected : Text) : Fault :=
  ⟨.value, say ["Not a capture reference: ", Text.quoted reference, " (expected format ",
    Text.quoted expected, ")"]⟩

end Fault

def Datum.write (form : Datum → Text) (d : Datum) : Except Fault Text :=
  if d.isWritable then .ok (form d) else .error .tooManyDigitsToWrite

end Stencil
