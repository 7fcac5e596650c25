import UrlRules.Text.Quoted

/-!
# Why a script literal cannot be read
-/
namespace UrlRules.Script

open Text

inductive Fault where
  | unterminatedComment
  | expected (wanted : CodePoint) (found : Option CodePoint)
  | trailingContent
  | endOfInput
  | unsupportedExpression
  | unsupportedKey
  | expectedInObject
  | expectedInArray
  | arrayHole
  | templateSubstitution
  | unterminatedText
  | unterminatedEscape
  | unterminatedCodePoint
  | invalidDigits (digits : Text)
  | unterminatedRegex
  deriving DecidableEq, Repr

/-- Where reading stops: `left` characters before the end of the text, and `past` after that. -/
inductive Failure where
  | malformed (fault : Fault) (left past : Nat)
  /-- A number names no character and is too large to be compared with one. -/
  | codePointTooLarge
  | tooManyDigits (count : Nat)
  deriving DecidableEq, Repr

/-- Why a declaration gives no value. -/
inductive Error where
  | notDeclared (name : Text)
  | malformed (fault : Fault) (position : Nat)
  | codePointTooLarge
  | tooManyDigits (count : Nat)
  deriving DecidableEq, Repr

def Fault.message : Fault → Text
  | .unterminatedComment => "Unterminated comment"
  | .expected wanted found =>
      Text.of "Expected " ++ quoted [wanted] ++ Text.of ", found " ++
        quoted (match found with
          | some c => [c]
          | none => Text.of "end of input")
  | .trailingContent => "Unexpected trailing content"
  | .endOfInput => "Unexpected end of input"
  | .unsupportedExpression => "Unsupported expression"
  | .unsupportedKey => "Unsupported object key"
  | .expectedInObject => Text.of "Expected ',' or '" ++ 0x7D :: Text.of "' in object"
  | .expectedInArray => "Expected ',' or ']' in array"
  | .arrayHole => "Array holes are not supported"
  | .templateSubstitution => "Template substitutions are not supported"
  | .unterminatedText => "Unterminated string"
  | .unterminatedEscape => "Unterminated escape"
  | .unterminatedCodePoint => "Unterminated unicode escape"
  | .invalidDigits digits => Text.of "Invalid escape digits " ++ quoted digits
  | .unterminatedRegex => "Unterminated regex literal"

def Error.message : Error → Text
  | .notDeclared name => Text.of "Declaration '" ++ name ++ Text.of "' not found"
  | .malformed fault position => fault.message ++ Text.of " at offset " ++ ofNat position
  | .codePointTooLarge => "a code point is too large"
  | .tooManyDigits count =>
      Text.of "Exceeds the limit (4300 digits) for integer string conversion: value has " ++
        ofNat count ++ Text.of " digits; use sys.set_int_max_str_digits() to increase the limit"

/-- The error of a failure in a text of a certain length. -/
def Failure.toError (total : Nat) : Failure → Error
  | .malformed fault left past => .malformed fault (total - left + past)
  | .codePointTooLarge => .codePointTooLarge
  | .tooManyDigits count => .tooManyDigits count

/-- A fault at the start of what is left of the text. -/
def failAt {α : Type} (fault : Fault) (rest : Text) : Except Failure α :=
  .error (.malformed fault rest.length 0)

end UrlRules.Script
