import UrlRules.Pattern.Basic
import UrlRules.Text.Quoted

/-!
# Faults of patterns

A fault of the text of a pattern has a place. Other causes concern the pattern as a whole.
-/
namespace UrlRules.Pattern

open Text

inductive Fault where
  | danglingEscape
  | badEscape (escape : Text)
  | incompleteEscape (escape : Text)
  | octalTooLarge (escape : Text)
  | missingBrace
  | missingName (kind : Text)
  | unterminatedName (terminator : CodePoint)
  | undefinedCharacter (name : Text)
  | openGroup
  | lookbehindGroup
  | invalidGroup (group : Nat)
  | unterminatedSet
  | badRange (first last : Text)
  | reversedBounds
  | nothingToRepeat
  | multipleRepeat
  | endOfPattern
  | unknownExtension (extension : Text)
  | badGroupName (name : Text)
  | unknownGroupName (name : Text)
  | redefinedGroup (name : Text) (group earlier : Nat)
  | badGroupNumber
  | unterminatedComment
  | unterminatedGroup
  | tooManyBranches
  | lateFlags
  | unbalanced
  | localeFlag
  | scriptFlagsClash
  | unknownFlag
  | missingFlag
  | missingFlagEnd
  | missingColon
  | turnsOnGlobalFlag
  | turnsOffGlobalFlag
  | turnsOffScript
  | turnedOnAndOff
  deriving DecidableEq, Repr

def Fault.message : Fault → Text
  | .danglingEscape => "bad escape (end of pattern)"
  | .badEscape escape => Text.of "bad escape " ++ escape
  | .incompleteEscape escape => Text.of "incomplete escape " ++ escape
  | .octalTooLarge escape =>
      Text.of "octal escape value " ++ escape ++ Text.of " outside of range 0-0o377"
  | .missingBrace => "missing \x7b"
  | .missingName kind => Text.of "missing " ++ kind
  | .unterminatedName terminator =>
      Text.of "missing " ++ terminator :: Text.of ", unterminated name"
  | .undefinedCharacter name => Text.of "undefined character name " ++ quoted name
  | .openGroup => "cannot refer to an open group"
  | .lookbehindGroup => "cannot refer to group defined in the same lookbehind subpattern"
  | .invalidGroup group => Text.of "invalid group reference " ++ ofNat group
  | .unterminatedSet => "unterminated character set"
  | .badRange first last => Text.of "bad character range " ++ first ++ 0x2D :: last
  | .reversedBounds => "min repeat greater than max repeat"
  | .nothingToRepeat => "nothing to repeat"
  | .multipleRepeat => "multiple repeat"
  | .endOfPattern => "unexpected end of pattern"
  | .unknownExtension extension => Text.of "unknown extension ?" ++ extension
  | .badGroupName name => Text.of "bad character in group name " ++ quoted name
  | .unknownGroupName name => Text.of "unknown group name " ++ quoted name
  | .redefinedGroup name group earlier =>
      Text.of "redefinition of group name " ++ quoted name ++ Text.of " as group " ++
        ofNat group ++ Text.of "; was group " ++ ofNat earlier
  | .badGroupNumber => "bad group number"
  | .unterminatedComment => "missing ), unterminated comment"
  | .unterminatedGroup => "missing ), unterminated subpattern"
  | .tooManyBranches => "conditional backref with more than two branches"
  | .lateFlags => "global flags not at the start of the expression"
  | .unbalanced => "unbalanced parenthesis"
  | .localeFlag => "bad inline flags: cannot use 'L' flag with a str pattern"
  | .scriptFlagsClash => "bad inline flags: flags 'a', 'u' and 'L' are incompatible"
  | .unknownFlag => "unknown flag"
  | .missingFlag => "missing flag"
  | .missingFlagEnd => "missing -, : or )"
  | .missingColon => "missing :"
  | .turnsOnGlobalFlag => "bad inline flags: cannot turn on global flag"
  | .turnsOffGlobalFlag => "bad inline flags: cannot turn off global flag"
  | .turnsOffScript => "bad inline flags: cannot turn off flags 'a', 'u' and 'L'"
  | .turnedOnAndOff => "bad inline flags: flag turned on and off"

/-- The greatest number of characters that a look behind may pass. -/
def maxLookbehind : Nat := 4294967295

/-- Why a text is not a pattern. -/
inductive Error where
  | malformed (fault : Fault) (pattern : Text) (position : Nat)
  | countTooLarge
  | codePointTooLarge
  | unboundedLookbehind
  | longLookbehind
  | template (greed : Greed)
  /-- The whole pattern asks for ASCII and for every script. -/
  | scriptsClash
  | tooManyDigits (count : Nat)
  deriving DecidableEq, Repr

/-- A position in a pattern; in a pattern of several lines also by line and column. -/
def placeText (pattern : Text) (position : Nat) : Text :=
  let read := pattern.take position
  let line := read.count lineFeed + 1
  let column := (read.reverse.takeWhile (· != lineFeed)).length + 1
  Text.of " at position " ++ ofNat position ++
    if pattern.contains lineFeed then
      Text.of " (line " ++ ofNat line ++ Text.of ", column " ++ ofNat column ++ Text.of ")"
    else []

def Error.message : Error → Text
  | .malformed fault pattern position => fault.message ++ placeText pattern position
  | .countTooLarge => "the repetition number is too large"
  | .codePointTooLarge => "Python int too large to convert to C int"
  | .unboundedLookbehind => "look-behind requires fixed-width pattern"
  | .longLookbehind => "looks too much behind"
  | .template greed =>
      Text.of "internal: unsupported template operator " ++
        match greed with
        | .greedy => "MAX_REPEAT"
        | .lazy => "MIN_REPEAT"
        | .possessive => "POSSESSIVE_REPEAT"
  | .scriptsClash => "ASCII and UNICODE flags are incompatible"
  | .tooManyDigits count =>
      Text.of "Exceeds the limit (4300 digits) for integer string conversion: value has " ++
        ofNat count ++ Text.of " digits; use sys.set_int_max_str_digits() to increase the limit"

/-- Whether a rule with such a pattern is an invalid rule. The other errors are not about the
pattern's form, and are passed on as they are. -/
def Error.isInvalidPattern : Error → Bool
  | .scriptsClash | .tooManyDigits _ => false
  | _ => true

end UrlRules.Pattern
