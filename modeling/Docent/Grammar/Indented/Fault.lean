import Docent.Tree
import Docent.Text.Quoted

/-!
# What can be wrong with an indentation-structured source

Every reason for which a Python source is refused is a `Fault`; `Fault.message` gives its wording.
A `Refusal` adds the line.
-/

namespace Docent.Indented

inductive Radix
  | binary | octal | decimal | hexadecimal | imaginary
deriving DecidableEq, Repr

def Radix.label : Radix → String
  | .binary => "binary"
  | .octal => "octal"
  | .decimal => "decimal"
  | .hexadecimal => "hexadecimal"
  | .imaginary => "imaginary"

def formLabel : Form → String
  | .variable => "name"
  | .attribute => "attribute"
  | .subscript => "subscript"
  | .starred => "starred"
  | .slice => "slice"
  | .list => "list"
  | .tuple => "tuple"
  | .set => "set display"
  | .dict => "dict literal"
  | .listComp => "list comprehension"
  | .setComp => "set comprehension"
  | .dictComp => "dict comprehension"
  | .generator => "generator expression"
  | .lambda => "lambda"
  | .call => "function call"
  | .operation => "expression"
  | .comparison => "comparison"
  | .conditional => "conditional expression"
  | .assigned => "named expression"
  | .yielding => "yield expression"
  | .awaiting => "await expression"
  | .noneLit => "None"
  | .trueLit => "True"
  | .falseLit => "False"
  | .ellipsis => "ellipsis"
  | .number | .string | .bytes => "literal"
  | .formatted => "f-string expression"
  | .group => "expression"

inductive SuiteOwner
  | classDefinition | functionDefinition | exceptStarStatement
  | statement (keyword : String)
deriving DecidableEq, Repr

def SuiteOwner.label : SuiteOwner → String
  | .classDefinition => "class definition"
  | .functionDefinition => "function definition"
  | .exceptStarStatement => "'except*' statement"
  | .statement keyword => s!"'{keyword}' statement"

inductive Fault
  -- the text and its tokens
  | nullCharacter
  | badCharacter (c : Char)
  | unprintable (c : Char)
  | badNumber (radix : Radix)
  | badDigit (c : Char) (radix : Radix)
  | leadingZeros
  | tooManyDigits (count : Nat)
  | unterminatedString (line : Nat)
  | unterminatedBlockString (line : Nat)
  | nestedTooDeeply
  | unmatched (close : Char)
  | mismatched (close opening : Char) (line : Option Nat)
  | neverClosed (opening : Char)
  | afterContinuation
  | unexpectedEnd
  | inconsistentTabs
  | inconsistentDedent
  | indentedTooDeeply
  | unexpectedIndent
  | unexpectedUnindent
  -- tokens that are missing
  | invalid
  | expected (what : String)
  | noSuite
  | noSuiteFor (owner : SuiteOwner) (line : Nat)
  | forgottenComma
  | forgottenCall (name : String)
  | forgottenElse
  | forgottenTargetParentheses
  | noHandler
  | mixedHandlers
  | noHandlerType
  | looseHandlerTypes
  | noDefault
  | noDictValue
  | noDictColon
  -- targets
  | assignTo (what : String)
  | assignMaybeCompare (what : String)
  | maybeCompareOrName
  | assignYield
  | delete (form : Form)
  | annotated (what : String)
  | annotationTarget
  | augmented (form : Form)
  | namedTarget (form : Form)
  | wildcardTarget
  | patternTarget
  -- arguments and parameters
  | positionalAfterKeyword
  | positionalAfterUnpacking
  | unpackingAfterUnpacking
  | argumentAssignment
  | bareGenerator
  | defaultOrder
  | parenthesizedParameters (isLambda : Bool)
  | slashFirst
  | slashTwice
  | slashAfterStar
  | commaBetweenSlashAndStar
  | bareStar
  | starTwice
  | starDefault
  | doubleStarDefault
  | afterDoubleStar
  -- stars where none can be
  | starredHere
  | doubleStarredHere
  | unpackingInComprehension
  | dictUnpackingInComprehension
  | starredDictValue
  -- imports and patterns
  | trailingImportComma
  | positionalPatternAfterKeyword
  | realNumberRequired
  | imaginaryNumberRequired
  -- string literals
  | mixedLiterals
  | nonAsciiBytes
  | badEscape (detail : String)
  | badByteEscape (position : Nat)
  | formattedBrace
  | formattedExpectingBrace
  | formattedEmpty
  | formattedEmptyBefore (c : Char)
  | formattedBackslash
  | formattedComment
  | formattedTooDeep
  | formattedConversion
  | formattedUnterminated
  | formattedUnmatched (c : Char)
  | formattedMismatched (close opening : Char)
  | formattedTooManyBrackets
  | formattedEnd
  | withinFormatted (f : Fault)
deriving Repr

def codePoint (c : Char) : String :=
  let digits := (Nat.toDigits 16 c.toNat).map Char.toUpper
  "U+" ++ String.ofList (List.replicate (4 - digits.length) '0' ++ digits)

def Fault.message : Fault → String
  | nullCharacter => "source code string cannot contain null bytes"
  | badCharacter c => s!"invalid character '{c}' ({codePoint c})"
  | unprintable c => s!"invalid non-printable character {codePoint c}"
  | badNumber radix => s!"invalid {radix.label} literal"
  | badDigit c radix => s!"invalid digit '{c}' in {radix.label} literal"
  | leadingZeros =>
    "leading zeros in decimal integer literals are not permitted; " ++
      "use an 0o prefix for octal integers"
  | tooManyDigits count =>
    s!"Exceeds the limit (4300 digits) for integer string conversion: value has {count} digits; " ++
      "use sys.set_int_max_str_digits() to increase the limit - Consider hexadecimal for huge " ++
      "integer literals to avoid decimal conversion limits."
  | unterminatedString line => s!"unterminated string literal (detected at line {line})"
  | unterminatedBlockString line =>
    s!"unterminated triple-quoted string literal (detected at line {line})"
  | nestedTooDeeply => "too many nested parentheses"
  | unmatched close => s!"unmatched '{close}'"
  | mismatched close opening none =>
    s!"closing parenthesis '{close}' does not match opening parenthesis '{opening}'"
  | mismatched close opening (some line) =>
    s!"closing parenthesis '{close}' does not match opening parenthesis '{opening}' on line {line}"
  | neverClosed opening => s!"'{opening}' was never closed"
  | afterContinuation => "unexpected character after line continuation character"
  | unexpectedEnd => "unexpected EOF while parsing"
  | inconsistentTabs => "inconsistent use of tabs and spaces in indentation"
  | inconsistentDedent => "unindent does not match any outer indentation level"
  | indentedTooDeeply => "too many levels of indentation"
  | unexpectedIndent => "unexpected indent"
  | unexpectedUnindent => "unexpected unindent"
  | invalid => "invalid syntax"
  | expected what => s!"expected '{what}'"
  | noSuite => "expected an indented block"
  | noSuiteFor owner line => s!"expected an indented block after {owner.label} on line {line}"
  | forgottenComma => "invalid syntax. Perhaps you forgot a comma?"
  | forgottenCall name =>
    s!"Missing parentheses in call to '{name}'. Did you mean {name}(...)?"
  | forgottenElse => "expected 'else' after 'if' expression"
  | forgottenTargetParentheses => "did you forget parentheses around the comprehension target?"
  | noHandler => "expected 'except' or 'finally' block"
  | mixedHandlers => "cannot have both 'except' and 'except*' on the same 'try'"
  | noHandlerType => "expected one or more exception types"
  | looseHandlerTypes => "multiple exception types must be parenthesized"
  | noDefault => "expected default value expression"
  | noDictValue => "expression expected after dictionary key and ':'"
  | noDictColon => "':' expected after dictionary key"
  | assignTo what => s!"cannot assign to {what}"
  | assignMaybeCompare what =>
    s!"cannot assign to {what} here. Maybe you meant '==' instead of '='?"
  | maybeCompareOrName => "invalid syntax. Maybe you meant '==' or ':=' instead of '='?"
  | assignYield => "assignment to yield expression not possible"
  | delete form => s!"cannot delete {formLabel form}"
  | annotated what => s!"only single target (not {what}) can be annotated"
  | annotationTarget => "illegal target for annotation"
  | augmented form => s!"'{formLabel form}' is an illegal expression for augmented assignment"
  | namedTarget form => s!"cannot use assignment expressions with {formLabel form}"
  | wildcardTarget => "cannot use '_' as a target"
  | patternTarget => "invalid pattern target"
  | positionalAfterKeyword => "positional argument follows keyword argument"
  | positionalAfterUnpacking => "positional argument follows keyword argument unpacking"
  | unpackingAfterUnpacking =>
    "iterable argument unpacking follows keyword argument unpacking"
  | argumentAssignment => "expression cannot contain assignment, perhaps you meant \"==\"?"
  | bareGenerator => "Generator expression must be parenthesized"
  | defaultOrder => "non-default argument follows default argument"
  | parenthesizedParameters true => "Lambda expression parameters cannot be parenthesized"
  | parenthesizedParameters false => "Function parameters cannot be parenthesized"
  | slashFirst => "at least one argument must precede /"
  | slashTwice => "/ may appear only once"
  | slashAfterStar => "/ must be ahead of *"
  | commaBetweenSlashAndStar => "expected comma between / and *"
  | bareStar => "named arguments must follow bare *"
  | starTwice => "* argument may appear only once"
  | starDefault => "var-positional argument cannot have default value"
  | doubleStarDefault => "var-keyword argument cannot have default value"
  | afterDoubleStar => "arguments cannot follow var-keyword argument"
  | starredHere => "cannot use starred expression here"
  | doubleStarredHere => "cannot use double starred expression here"
  | unpackingInComprehension => "iterable unpacking cannot be used in comprehension"
  | dictUnpackingInComprehension => "dict unpacking cannot be used in dict comprehension"
  | starredDictValue => "cannot use a starred expression in a dictionary value"
  | trailingImportComma => "trailing comma not allowed without surrounding parentheses"
  | positionalPatternAfterKeyword => "positional patterns follow keyword patterns"
  | realNumberRequired => "real number required in complex literal"
  | imaginaryNumberRequired => "imaginary number required in complex literal"
  | mixedLiterals => "cannot mix bytes and nonbytes literals"
  | nonAsciiBytes => "bytes can only contain ASCII literal characters"
  | badEscape detail => s!"(unicode error) 'unicodeescape' codec can't decode bytes in {detail}"
  | badByteEscape position => s!"(value error) invalid \\x escape at position {position}"
  | formattedBrace => "f-string: single '\x7d' is not allowed"
  | formattedExpectingBrace => "f-string: expecting '\x7d'"
  | formattedEmpty => "f-string: empty expression not allowed"
  | formattedEmptyBefore c => s!"f-string: expression required before '{c}'"
  | formattedBackslash => "f-string expression part cannot include a backslash"
  | formattedComment => "f-string expression part cannot include '#'"
  | formattedTooDeep => "f-string: expressions nested too deeply"
  | formattedConversion =>
    "f-string: invalid conversion character: expected 's', 'r', or 'a'"
  | formattedUnterminated => "f-string: unterminated string"
  | formattedUnmatched c => s!"f-string: unmatched '{c}'"
  | formattedMismatched close opening =>
    s!"f-string: closing parenthesis '{close}' does not match opening parenthesis '{opening}'"
  | formattedTooManyBrackets => "f-string: too many nested parenthesis"
  | formattedEnd => "f-string: unexpected end of string"
  | withinFormatted f => "f-string: " ++ f.message

/-- A refused source: the fault and the line it is reported on, if it has one. -/
structure Refusal where
  fault : Fault
  line : Option Nat
deriving Repr

end Docent.Indented
