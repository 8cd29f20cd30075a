import FleetHealth.Text.Basic

/- Why a pattern is refused. -/
namespace FleetHealth.Pattern

/-- The deepest nesting of groups, repetitions and classes that a pattern may have. -/
def nestLimit : Nat := 250

/-- The most bytes that the automaton of a pattern may take. -/
def sizeLimit : Nat := 10485760

inductive Fault where
  | classEscapeInvalid
  | classRangeInvalid
  | classRangeLiteral
  | classUnclosed
  | decimalInvalid
  | escapeEnds
  | escapeUnknown
  | flagDangling
  | flagDuplicate
  | flagEnds
  | flagNegationRepeated
  | flagUnknown
  | groupNameDuplicate
  | groupNameEmpty
  | groupNameEnds
  | groupNameInvalid
  | groupUnclosed
  | groupUnopened
  | hexDigitInvalid
  | hexEmpty
  | hexInvalid
  | lookAround
  | backreference
  | nestedTooDeep
  | repetitionCountEmpty
  | repetitionCountInvalid
  | repetitionCountUnclosed
  | repetitionMissing
  | wordBoundaryEnds
  | wordBoundaryUnclosed
  | wordBoundaryUnknown
  | unicodeClassInvalid
  | unicodeNotAllowed
  | invalidUtf8
  | propertyUnknown
  | propertyValueUnknown
  | tooLarge
  deriving DecidableEq, Repr

namespace Fault

def reason : Fault → Text
  | classEscapeInvalid => "invalid escape sequence found in character class".toList
  | classRangeInvalid =>
    "invalid character class range, the start must be <= the end".toList
  | classRangeLiteral => "invalid range boundary, must be a literal".toList
  | classUnclosed => "unclosed character class".toList
  | decimalInvalid => "decimal literal invalid".toList
  | escapeEnds =>
    "incomplete escape sequence, reached end of pattern prematurely".toList
  | escapeUnknown => "unrecognized escape sequence".toList
  | flagDangling => "dangling flag negation operator".toList
  | flagDuplicate => "duplicate flag".toList
  | flagEnds => "expected flag but got end of regex".toList
  | flagNegationRepeated => "flag negation operator repeated".toList
  | flagUnknown => "unrecognized flag".toList
  | groupNameDuplicate => "duplicate capture group name".toList
  | groupNameEmpty => "empty capture group name".toList
  | groupNameEnds => "unclosed capture group name".toList
  | groupNameInvalid => "invalid capture group character".toList
  | groupUnclosed => "unclosed group".toList
  | groupUnopened => "unopened group".toList
  | hexDigitInvalid => "invalid hexadecimal digit".toList
  | hexEmpty => "hexadecimal literal empty".toList
  | hexInvalid => "hexadecimal literal is not a Unicode scalar value".toList
  | lookAround =>
    "look-around, including look-ahead and look-behind, is not supported".toList
  | backreference => "backreferences are not supported".toList
  | nestedTooDeep =>
    "exceed the maximum number of nested parentheses/brackets (".toList ++ natText nestLimit ++
      ")".toList
  | repetitionCountEmpty => "repetition quantifier expects a valid decimal".toList
  | repetitionCountInvalid =>
    "invalid repetition count range, the start must be <= the end".toList
  | repetitionCountUnclosed => "unclosed counted repetition".toList
  | repetitionMissing => "repetition operator missing expression".toList
  | wordBoundaryEnds =>
    ("found either the beginning of a special word boundary or a bounded repetition on a \\b " ++
      "with an opening brace, but no closing brace").toList
  | wordBoundaryUnclosed =>
    ("special word boundary assertion is either unclosed or contains an invalid " ++
      "character").toList
  | wordBoundaryUnknown =>
    ("unrecognized special word boundary assertion, valid choices are: start, end, " ++
      "start-half or end-half").toList
  | unicodeClassInvalid => "invalid Unicode character class".toList
  | unicodeNotAllowed => "Unicode not allowed here".toList
  | invalidUtf8 => "pattern can match invalid UTF-8".toList
  | propertyUnknown => "Unicode property not found".toList
  | propertyValueUnknown => "Unicode property value not found".toList
  | tooLarge =>
    "Compiled regex exceeds size limit of ".toList ++ natText sizeLimit ++ " bytes.".toList

/-- The text of the refusal of a pattern, its lines separated by line feeds. -/
def message (pattern : Text) : Fault → Text
  | tooLarge => reason tooLarge
  | f => "regex parse error:\n    ".toList ++ pattern ++ "\nerror: ".toList ++ reason f

end Fault
end FleetHealth.Pattern
