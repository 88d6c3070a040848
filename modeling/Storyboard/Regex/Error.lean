/-!
# Rejected expressions

Why a text is not a regular expression. Every cause has its own wording.
-/

namespace Storyboard.Regex

/-- The causes for which an expression is rejected. -/
inductive Error where
  | tooMuchNesting
  | duplicateGroupName
  | unclosedGroup
  | unclosedGroupQuestion
  | unopenedGroup
  | lookAround
  | emptyFlags
  | missingGroupName
  | invalidGroupName
  | unclosedGroupName
  | emptyGroupName
  | unrecognizedFlag
  | repeatedNegation
  | duplicateFlag
  | unclosedFlags
  | danglingNegation
  | noDigits
  | badDecimal
  | bracedHexDigit
  | bracedHexUnclosed
  | bracedHexEmpty
  | bracedHexValue
  | fixedHexUnclosed
  | fixedHexDigit
  | fixedHexValue
  | hexUnclosed
  | escapeUnclosed
  | backreference
  | unicodeClass
  | unrecognizedEscape
  | nothingToRepeat
  | nothingToCount
  | countUnclosed
  | countMinUnclosed
  | countCommaUnclosed
  | countMaxUnclosed
  | countInvalid
  | countRange
  | classUnclosed
  | classUnclosedItem
  | classUnclosedNegation
  | classUnclosedDash
  | classUnclosedBracket
  | classRangeItem
  | classItem
  | classRange
  | classNested
  | classIntersection
  | classDifference
  | classSymmetricDifference
  | boundaryUnclosed
  | boundaryUnrecognized
  | boundaryOrCountUnclosed
  | tooLarge
  deriving DecidableEq, Repr

/-- The wording of a rejection. -/
def Error.message : Error → String
  | tooMuchNesting => "pattern has too much nesting"
  | duplicateGroupName => "duplicate capture group name"
  | unclosedGroup => "found open group without closing ')'"
  | unclosedGroupQuestion => "expected closing ')', but got end of pattern"
  | unopenedGroup => "found closing ')' without matching '('"
  | lookAround => "look-around is not supported"
  | emptyFlags => "empty flag directive '(?)' is not allowed"
  | missingGroupName => "expected capture group name, but got end of pattern"
  | invalidGroupName => "invalid group name"
  | unclosedGroupName => "expected end of capture group name, but got end of pattern"
  | emptyGroupName => "empty capture group names are not allowed"
  | unrecognizedFlag => "unrecognized inline flag"
  | repeatedNegation => "inline flag negation cannot be repeated"
  | duplicateFlag => "duplicate inline flag is not allowed"
  | unclosedFlags => "expected ':' or ')' to end inline flags, but got end of pattern"
  | danglingNegation => "inline flags cannot end with negation directive"
  | noDigits => "expected decimal number, but found no digits"
  | badDecimal => "got invalid decimal number"
  | bracedHexDigit => "expected hexadecimal number in braces, but got non-hex digit"
  | bracedHexUnclosed =>
      "expected hexadecimal number, but saw end of pattern before closing brace"
  | bracedHexEmpty => "expected hexadecimal number in braces, but got no digits"
  | bracedHexValue => "got invalid hexadecimal number in braces"
  | fixedHexUnclosed =>
      "expected fixed length hexadecimal number, but saw end of pattern first"
  | fixedHexDigit => "expected fixed length hexadecimal number, but got non-hex digit"
  | fixedHexValue => "got invalid fixed length hexadecimal number"
  | hexUnclosed => "expected hexadecimal number, but saw end of pattern first"
  | escapeUnclosed =>
      "saw start of escape sequence, but saw end of pattern before it finished"
  | backreference => "backreferences are not supported"
  | unicodeClass => "Unicode character classes are not supported"
  | unrecognizedEscape => "unrecognized escape sequence"
  | nothingToRepeat => "uncounted repetition operator must be applied to a sub-expression"
  | nothingToCount => "counted repetition operator must be applied to a sub-expression"
  | countUnclosed => "found unclosed counted repetition operator"
  | countMinUnclosed => "found incomplete and unclosed counted repetition operator"
  | countCommaUnclosed => "found counted repetition operator with a comma that is unclosed"
  | countMaxUnclosed => "found counted repetition with min and max that is unclosed"
  | countInvalid => "expected closing brace for counted repetition, but got something else"
  | countRange => "found counted repetition with a min bigger than its max"
  | classUnclosed => "found unclosed character class"
  | classUnclosedItem => "non-empty character class has no closing bracket"
  | classUnclosedNegation => "negated character class has no closing bracket"
  | classUnclosedDash => "non-empty character class has no closing bracket after dash"
  | classUnclosedBracket =>
      "character class begins with literal ']' but has no closing bracket"
  | classRangeItem => "character class ranges must start and end with a single character"
  | classItem => "invalid escape sequence in character class"
  | classRange => "invalid range in character class"
  | classNested => "nested character classes are not supported"
  | classIntersection => "character class intersection is not supported"
  | classDifference => "character class difference is not supported"
  | classSymmetricDifference => "character class symmetric difference is not supported"
  | boundaryUnclosed =>
      "special word boundary assertion is unclosed or has an invalid character"
  | boundaryUnrecognized => "special word boundary assertion is unrecognized"
  | boundaryOrCountUnclosed =>
      "found start of special word boundary or repetition without an end"
  | tooLarge => "compiled regex exceeded size limit"

end Storyboard.Regex
