/-!
# Why a regular expression is refused
-/
namespace LogTable.Regex

inductive Fault
  | unclosedGroup | unopenedGroup | unclosedClass | emptyRange | rangeEnd | classEscape
  | nothingToRepeat | badRepetition
  | endOfPattern | badEscape | badHex | backReference | lookAround
  | badFlag | badGroupName | repeatedGroupName
  | unknownProperty | badBoundary
  | notUtf8 | needsUnicode
  | tooDeep | tooLarge
  deriving DecidableEq, Repr

def Fault.message : Fault → String
  | .unclosedGroup => "unclosed group"
  | .unopenedGroup => "unopened group"
  | .unclosedClass => "unclosed character class"
  | .emptyRange => "the start of a range must not lie behind its end"
  | .rangeEnd => "a range must run from one character to another"
  | .classEscape => "this escape has no meaning in a character class"
  | .nothingToRepeat => "a repetition needs an expression before it"
  | .badRepetition => "malformed repetition count"
  | .endOfPattern => "the pattern ends in the middle of an escape"
  | .badEscape => "unknown escape"
  | .badHex => "malformed hexadecimal escape"
  | .backReference => "back-references are not supported"
  | .lookAround => "look-around is not supported"
  | .badFlag => "malformed flags"
  | .badGroupName => "malformed group name"
  | .repeatedGroupName => "two groups have the same name"
  | .unknownProperty => "unknown property of characters"
  | .badBoundary => "unknown kind of word boundary"
  | .notUtf8 => "the pattern can match text that is not UTF-8"
  | .needsUnicode => "this needs the Unicode flag"
  | .tooDeep => "the pattern is nested too deeply"
  | .tooLarge => "the compiled pattern is too large"

end LogTable.Regex
