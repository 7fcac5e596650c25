import UrlRules.Value.Display

/-!
# Why a document cannot be read

An error names what was being read and where that began, what is wrong, and where. Values whose
texts do not fit their tags are errors of their own kind.
-/
namespace UrlRules.Yaml

open Text

/-- A place in a document. Lines and columns are counted from zero. -/
structure Mark where
  line : Nat
  column : Nat
  deriving DecidableEq, Repr, Inhabited

/-- What was being read. -/
inductive Context where
  | nextToken
  | simpleKey
  | directive
  | directivePart
  | anchor
  | alias
  | tag
  | tagPart
  | blockScalar
  | doubleQuoted
  | quotedScalar
  | node
  | blockNode
  | flowNode
  | blockCollection
  | blockMapping
  | flowSequence
  | flowMapping
  | duplicateAnchor (name : Text)
  | singleDocument
  | mapping
  | orderedMap
  | pairs
  deriving DecidableEq, Repr

/-- What was wanted where something else was found. -/
inductive Wanted where
  | nameCharacter
  | digitOrPoint
  | digitOrSpace
  | digit
  | space
  | commentOrBreak
  | tagEnd
  | exclamation
  | uri
  | uriEscape
  | escape (digits : Nat)
  | blockIndicators
  | documentStart
  | nodeContent
  | blockEnd
  deriving DecidableEq, Repr

inductive NodeKind where
  | scalar
  | sequence
  | mapping
  deriving DecidableEq, Repr

/-- What kind of node was wanted. -/
inductive WantedNode where
  | scalar
  | sequence
  | mapping
  | items
  | single
  | merged
  | mergedOrList
  deriving DecidableEq, Repr

/-- Why base64 cannot be decoded. -/
inductive Base64Fault where
  | padding
  | lonelyCharacter (count : Nat)
  deriving DecidableEq, Repr

inductive Cause where
  | cannotStart (c : CodePoint)
  | missingColon
  | sequenceNotAllowed
  | keyNotAllowed
  | valueNotAllowed
  | expected (wanted : Wanted) (found : Text)
  | expectedSeparator (closing : CodePoint) (found : Text)
  | zeroIndentation
  | unknownEscape (c : CodePoint)
  | endOfStream
  | documentSeparator
  | undecodable (octets : List Utf8.Octet)
  | repeatedVersion
  | incompatibleVersion
  | repeatedHandle (handle : Text)
  | undefinedHandle (handle : Text)
  | undefinedAlias (name : Text)
  | secondOccurrence
  | anotherDocument
  | notAKey
  | unknownTag (tag : Text)
  | recursiveNode
  | wrongKind (wanted : WantedNode) (found : NodeKind)
  | itemCount (count : Nat)
  | notAscii (c : CodePoint) (position : Nat)
  | base64 (fault : Base64Fault)
  deriving DecidableEq, Repr

/-- The parts of a date and time that have a range. -/
inductive DateFault where
  | year (n : Nat)
  | month
  | day
  | hour
  | minute
  | second
  | zone (minutes : Int)
  deriving DecidableEq, Repr

/-- Why a text has no value under its tag. -/
inductive ScalarFault where
  | notAnInteger (base : Nat) (literal : Text)
  | tooManyDigits (count : Nat)
  | notANumber (literal : Text)
  | noNumber
  | notATruthValue (literal : Text)
  | notADate
  | outOfRange (fault : DateFault)
  | noCodePoint
  | codePointTooLarge
  deriving DecidableEq, Repr

inductive Error where
  | forbidden (c : CodePoint) (position : Nat)
  | malformed (context : Option (Context × Option Mark)) (cause : Cause) (mark : Mark)
  | scalar (fault : ScalarFault)
  deriving DecidableEq, Repr

def Context.text : Context → Text
  | .nextToken => "while scanning for the next token"
  | .simpleKey => "while scanning a simple key"
  | .directive => "while scanning a directive"
  | .directivePart => "while parsing a directive"
  | .anchor => "while scanning an anchor"
  | .alias => "while scanning an alias"
  | .tag => "while scanning a tag"
  | .tagPart => "while parsing a tag"
  | .blockScalar => "while scanning a block scalar"
  | .doubleQuoted => "while scanning a double-quoted scalar"
  | .quotedScalar => "while scanning a quoted scalar"
  | .node => "while parsing a node"
  | .blockNode => "while parsing a block node"
  | .flowNode => "while parsing a flow node"
  | .blockCollection => "while parsing a block collection"
  | .blockMapping => "while parsing a block mapping"
  | .flowSequence => "while parsing a flow sequence"
  | .flowMapping => "while parsing a flow mapping"
  | .duplicateAnchor name =>
      Text.of "found duplicate anchor " ++ quoted name ++ Text.of "; first occurrence"
  | .singleDocument => "expected a single document in the stream"
  | .mapping => "while constructing a mapping"
  | .orderedMap => "while constructing an ordered map"
  | .pairs => "while constructing pairs"

def Wanted.text : Wanted → Text
  | .nameCharacter => "alphabetic or numeric character"
  | .digitOrPoint => "a digit or '.'"
  | .digitOrSpace => "a digit or ' '"
  | .digit => "a digit"
  | .space => "' '"
  | .commentOrBreak => "a comment or a line break"
  | .tagEnd => "'>'"
  | .exclamation => "'!'"
  | .uri => "URI"
  | .uriEscape => "URI escape sequence of 2 hexadecimal numbers"
  | .escape digits => Text.of "escape sequence of " ++ ofNat digits ++ Text.of " hexadecimal numbers"
  | .blockIndicators => "chomping or indentation indicators"
  | .documentStart => "'<document start>'"
  | .nodeContent => "the node content"
  | .blockEnd => "<block end>"

def NodeKind.text : NodeKind → Text
  | .scalar => "scalar"
  | .sequence => "sequence"
  | .mapping => "mapping"

def WantedNode.text : WantedNode → Text
  | .scalar => "a scalar node"
  | .sequence => "a sequence node"
  | .mapping => "a mapping node"
  | .items => "a sequence"
  | .single => "a mapping of length 1"
  | .merged => "a mapping for merging"
  | .mergedOrList => "a mapping or list of mappings for merging"

def Base64Fault.text : Base64Fault → Text
  | .padding => "Incorrect padding"
  | .lonelyCharacter count =>
      Text.of "Invalid base64-encoded string: number of data characters (" ++ ofNat count ++
        Text.of ") cannot be 1 more than a multiple of 4"

/-- Tells the first octets that are not UTF-8. -/
def undecodableText (octets : List Utf8.Octet) : Text :=
  match Utf8.malformed? none 0 0 octets with
  | none => []
  | some m =>
      let place :=
        if m.size = 1 then
          Text.of "byte 0x" ++ hexPadded 2 (octets.getD m.first 0) ++ Text.of " in position " ++
            ofNat m.first
        else
          Text.of "bytes in position " ++ ofNat m.first ++ Text.of "-" ++
            ofNat (m.first + m.size - 1)
      let reason : Text :=
        match m.fault with
        | .start => "invalid start byte"
        | .continuation => "invalid continuation byte"
        | .endOfData => "unexpected end of data"
      Text.of "'utf-8' codec can't decode " ++ place ++ Text.of ": " ++ reason

def Cause.text : Cause → Text
  | .cannotStart c =>
      Text.of "found character " ++ quoted [c] ++ Text.of " that cannot start any token"
  | .missingColon => "could not find expected ':'"
  | .sequenceNotAllowed => "sequence entries are not allowed here"
  | .keyNotAllowed => "mapping keys are not allowed here"
  | .valueNotAllowed => "mapping values are not allowed here"
  | .expected wanted found =>
      Text.of "expected " ++ wanted.text ++ Text.of ", but found " ++ quoted found
  | .expectedSeparator closing found =>
      Text.of "expected ',' or '" ++ closing :: Text.of "', but got " ++ quoted found
  | .zeroIndentation => "expected indentation indicator in the range 1-9, but found 0"
  | .unknownEscape c => Text.of "found unknown escape character " ++ quoted [c]
  | .endOfStream => "found unexpected end of stream"
  | .documentSeparator => "found unexpected document separator"
  | .undecodable octets => undecodableText octets
  | .repeatedVersion => "found duplicate YAML directive"
  | .incompatibleVersion => "found incompatible YAML document (version 1.* is required)"
  | .repeatedHandle handle => Text.of "duplicate tag handle " ++ quoted handle
  | .undefinedHandle handle => Text.of "found undefined tag handle " ++ quoted handle
  | .undefinedAlias name => Text.of "found undefined alias " ++ quoted name
  | .secondOccurrence => "second occurrence"
  | .anotherDocument => "but found another document"
  | .notAKey => "found unhashable key"
  | .unknownTag tag => Text.of "could not determine a constructor for the tag " ++ quoted tag
  | .recursiveNode => "found unconstructable recursive node"
  | .wrongKind wanted found =>
      Text.of "expected " ++ wanted.text ++ Text.of ", but found " ++ found.text
  | .itemCount count =>
      Text.of "expected a single mapping item, but found " ++ ofNat count ++ Text.of " items"
  | .notAscii c position =>
      Text.of "failed to convert base64 data into ascii: 'ascii' codec can't encode character '" ++
        numericEscape c ++ Text.of "' in position " ++ ofNat position ++
        Text.of ": ordinal not in range(128)"
  | .base64 fault => Text.of "failed to decode base64 data: " ++ fault.text

def DateFault.text : DateFault → Text
  | .year n => Text.of "year " ++ ofNat n ++ Text.of " is out of range"
  | .month => "month must be in 1..12"
  | .day => "day is out of range for month"
  | .hour => "hour must be in 0..23"
  | .minute => "minute must be in 0..59"
  | .second => "second must be in 0..59"
  | .zone minutes =>
      Text.of "offset must be a timedelta strictly between -timedelta(hours=24) and " ++
        Text.of "timedelta(hours=24), not " ++ Value.durationText minutes ++ Text.of "."

def ScalarFault.text : ScalarFault → Text
  | .notAnInteger base literal =>
      Text.of "invalid literal for int() with base " ++ ofNat base ++ Text.of ": " ++ quoted literal
  | .tooManyDigits count =>
      Text.of "Exceeds the limit (4300 digits) for integer string conversion: value has " ++
        ofNat count ++ Text.of " digits; use sys.set_int_max_str_digits() to increase the limit"
  | .notANumber literal => Text.of "could not convert string to float: " ++ quoted literal
  | .noNumber => "string index out of range"
  | .notATruthValue literal => quoted literal
  | .notADate => "no date"
  | .outOfRange fault => fault.text
  | .noCodePoint => "chr() arg not in range(0x110000)"
  | .codePointTooLarge => "a code point is too large"

/-- The line that tells a place. -/
def Mark.text (document : Text) (m : Mark) : Text :=
  Text.of "  in \"" ++ document ++ Text.of "\", line " ++ ofNat (m.line + 1) ++
    Text.of ", column " ++ ofNat (m.column + 1)

/-- The text of an error in a document of some name. The place where reading began is told if it is
not the place of the error. -/
def Error.message (document : Text) : Error → Text
  | .forbidden c position =>
      Text.of "unacceptable character #x" ++ hexPadded (max 4 (Nat.toDigits 16 c).length) c ++
        Text.of ": special characters are not allowed\n  in \"" ++ document ++
        Text.of "\", position " ++ ofNat position
  | .malformed context cause mark =>
      let opening :=
        match context with
        | none => []
        | some (c, none) => [c.text]
        | some (c, some start) =>
            if start = mark then [c.text] else [c.text, start.text document]
      joinWith [lineFeed] (opening ++ [cause.text, mark.text document])
  | .scalar fault => fault.text

end UrlRules.Yaml
