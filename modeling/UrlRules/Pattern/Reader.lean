import UrlRules.Pattern.Error
import UrlRules.Text.Identifier
import UrlRules.Text.Integer
import UrlRules.Text.Name

/-!
# Reading patterns

A pattern is read token by token; a backslash and the character after it are one token. The reader
knows what is left of the pattern, the flags set for the whole of it, and the groups opened so far.
The next token is looked at as soon as the one before is taken, so a backslash at the end is found
before anything else that is wrong from there on.

Groups may be nested to any depth. Where recursion has a limit, a pattern whose groups are nested too
deeply is refused like one that is malformed; this limit is left out.
-/
namespace UrlRules.Pattern.Reader

open Text

/-- What stops the reader. -/
inductive Failure where
  | at (fault : Fault) (position : Nat)
  | countTooLarge
  | codePointTooLarge
  | tooManyDigits (count : Nat)
  deriving DecidableEq, Repr

structure State where
  /-- The length of the pattern. -/
  total : Nat
  rest : Text
  flags : Flags := {}
  names : List (Text × Nat) := []
  /-- The widths of the groups opened so far, none for one that is still open. -/
  widths : List (Option Width) := []
  /-- Inside a look behind, the number of groups there were before it, and one. -/
  outsideGroups : Option Nat := none
  /-- Groups that choices ask for by number, with the place of the first one to ask. -/
  asked : List (Nat × Nat) := []

abbrev Reading := StateT State (Except Failure)

/-- The token at the start of a text; empty at its end. -/
def tokenAt : Text → Text
  | [] => []
  | [c] => [c]
  | c :: d :: _ => if c = backslash then [c, d] else [c]

def peek : Reading Text := return tokenAt (← get).rest

def place : Reading Nat := return (← get).total - (← get).rest.length

/-- Stops with a fault at a number of characters before the next token. -/
def fail {α : Type} (fault : Fault) (back : Nat) : Reading α := do
  throw (.at fault ((← place) - back))

def moveTo (rest : Text) : Reading Unit := do
  if rest = [backslash] then throw (.at .danglingEscape ((← get).total - 1))
  modify fun s => { s with rest }

def skip (count : Nat) : Reading Unit := do moveTo ((← get).rest.drop count)

/-- Takes the next token. -/
def take : Reading Text := do
  let token ← peek
  skip token.length
  return token

/-- Takes the next token if it is a certain character. -/
def takeIf (c : CodePoint) : Reading Bool := do
  if (← peek) = [c] then
    skip 1
    return true
  else return false

/-- Takes up to `count` characters of a class. -/
def takeSome (count : Nat) (wanted : CodePoint → Bool) : Reading Text := do
  let read := ((← get).rest.take count).takeWhile wanted
  skip read.length
  return read

/-- Takes all characters of a class. -/
def takeAll (wanted : CodePoint → Bool) : Reading Text := do
  takeSome (← get).rest.length wanted

/-- Takes the characters of a name up to its end mark. -/
def takeName (terminator : CodePoint) (kind : Text) : Nat → Text → Reading Text
  | 0, name => return name
  | fuel + 1, name => do
      let token ← take
      if token.isEmpty then
        if name.isEmpty then fail (.missingName kind) 0
        else fail (.unterminatedName terminator) name.length
      else if token = [terminator] then
        if name.isEmpty then fail (.missingName kind) 1 else return name
      else takeName terminator kind fuel (name ++ token)

def takeNameUpTo (terminator : CodePoint) (kind : String) : Reading Text := do
  takeName terminator (Text.of kind) ((← get).rest.length + 1) []

def groupName : String := "group name"

def checkName (name : Text) : Reading Unit := do
  if !isIdentifier name then fail (.badGroupName name) (name.length + 1)

/-! ## Groups -/

/-- The number of groups opened so far, and one for the whole pattern. -/
def groupCount : Reading Nat := return (← get).widths.length + 1

/-- The width of a group, none if it is still open or there is no such group. -/
def closedWidth? (group : Nat) : Reading (Option Width) := do
  if group = 0 then return none
  else return ((← get).widths[group - 1]?).join

def isClosed (group : Nat) : Reading Bool := return (← closedWidth? group).isSome

/-- A look behind refers only to groups that were closed before it. -/
def checkOutside (group : Nat) : Reading Unit := do
  match (← get).outsideGroups with
  | none => return
  | some count =>
      if !(← isClosed group) then fail .openGroup 0
      if count ≤ group then fail .lookbehindGroup 0

def openGroup (name : Option Text) : Reading Nat := do
  let group ← groupCount
  modify fun s => { s with widths := s.widths ++ [none] }
  match name with
  | none => return group
  | some name =>
      match (← get).names.lookup name with
      | some earlier => fail (.redefinedGroup name group earlier) (name.length + 1)
      | none =>
          modify fun s => { s with names := s.names ++ [(name, group)] }
          return group

/-- The width of a group by index, as far as it is known. -/
def widthIn (widths : List (Option Width)) (group : Nat) : Width :=
  (widths[group - 1]?).join.getD ⟨0, 0⟩

def closeGroup (group : Nat) (body : Node) : Reading Unit := do
  let widths := (← get).widths
  set { (← get) with widths := widths.set (group - 1) (some (body.width (widthIn widths))) }

/-! ## Escapes -/

inductive Escaped where
  | char (c : CodePoint)
  | category (positive : Bool) (kind : Category)
  | anchor (a : Anchor)
  | backref (group : Nat)

def controlEscape? (c : CodePoint) : Option CodePoint :=
  if c = 0x61 then some 0x07
  else if c = 0x62 then some 0x08
  else if c = 0x66 then some 0x0C
  else if c = 0x6E then some 0x0A
  else if c = 0x72 then some 0x0D
  else if c = 0x74 then some 0x09
  else if c = 0x76 then some 0x0B
  else if c = backslash then some backslash
  else none

def categoryEscape? (c : CodePoint) : Option Escaped :=
  if c = 0x64 then some (.category true .digit)
  else if c = 0x44 then some (.category false .digit)
  else if c = 0x73 then some (.category true .blank)
  else if c = 0x53 then some (.category false .blank)
  else if c = 0x77 then some (.category true .word)
  else if c = 0x57 then some (.category false .word)
  else none

def anchorEscape? (c : CodePoint) : Option Anchor :=
  if c = 0x41 then some .textStart
  else if c = 0x5A then some .textEnd
  else if c = 0x62 then some .wordBoundary
  else if c = 0x42 then some .noWordBoundary
  else none

def numberOf (base : Nat) (digits : Text) : Nat :=
  digitsValue base (digits.filterMap hexValue?)

/-- Reads an escape of a fixed number of hexadecimal digits. -/
def readHex (escape : Text) (count : Nat) : Reading Nat := do
  let digits ← takeSome count isHexDigit
  let written := escape ++ digits
  if digits.length ≠ count then fail (.incompleteEscape written) written.length
  let code := numberOf 16 digits
  if code ≤ maxCodePoint then return code
  else if code ≤ 0x7FFFFFFF then fail (.badEscape written) written.length
  else throw .codePointTooLarge

/-- Reads the name of a character. -/
def readNamed (escape : Text) : Reading Nat := do
  if !(← takeIf 0x7B) then fail .missingBrace 0
  let name ← takeNameUpTo 0x7D "character name"
  if name.any isSurrogate then fail (.badEscape escape) escape.length
  match characterNamed? name with
  | some c => return c
  | none => fail (.undefinedCharacter name) (name.length + 4)

/-- Reads an escape that gives a code or a name of a character. -/
def readCode? (escape : Text) (c : CodePoint) : Reading (Option Nat) := do
  if c = 0x78 then return some (← readHex escape 2)
  else if c = 0x75 then return some (← readHex escape 4)
  else if c = 0x55 then return some (← readHex escape 8)
  else if c = 0x4E then return some (← readNamed escape)
  else return none

/-- Reads an escape inside a set, after its first two characters. -/
def readSetEscape (escape : Text) : Reading Escaped := do
  let c := escape.getD 1 0
  match controlEscape? c, categoryEscape? c with
  | some code, _ => return .char code
  | none, some category => return category
  | none, none =>
      if let some code ← readCode? escape c then return .char code
      else if isOctalDigit c then
        let digits := c :: (← takeSome 2 isOctalDigit)
        let code := numberOf 8 digits
        if 0o377 < code then
          fail (.octalTooLarge (backslash :: digits)) (digits.length + 1)
        return .char code
      else if isAsciiDigit c ∨ isAsciiLetter c then fail (.badEscape escape) escape.length
      else return .char c

/-- Reads an escape that starts with a digit other than zero: three octal digits are a character,
one or two digits the number of a group. -/
def readNumbered (first : CodePoint) : Reading Escaped := do
  let next := (← get).rest.takeWhile isAsciiDigit
  let digits := first :: next.take 1
  skip (next.take 1).length
  let third := (next.drop 1).take 1
  if digits.all isOctalDigit && digits.length = 2 && third.any isOctalDigit then
    skip 1
    let digits := digits ++ third
    let code := numberOf 8 digits
    if 0o377 < code then fail (.octalTooLarge (backslash :: digits)) (digits.length + 1)
    return .char code
  else
    let group := numberOf 10 digits
    if group < (← groupCount) then
      if !(← isClosed group) then fail .openGroup (digits.length + 1)
      checkOutside group
      return .backref group
    else fail (.invalidGroup group) digits.length

/-- Reads an escape outside sets, after its first two characters. -/
def readEscape (escape : Text) : Reading Escaped := do
  let c := escape.getD 1 0
  match anchorEscape? c, categoryEscape? c, controlEscape? c with
  | some anchor, _, _ => return .anchor anchor
  | none, some category, _ => return category
  | none, none, some code => return .char code
  | none, none, none =>
      if let some code ← readCode? escape c then return .char code
      else if c = 0x30 then return .char (numberOf 8 (c :: (← takeSome 2 isOctalDigit)))
      else if isAsciiDigit c then readNumbered c
      else if isAsciiLetter c then fail (.badEscape escape) escape.length
      else return .char c

def Escaped.node : Escaped → Node
  | .char c => .char c
  | .category positive kind => .set ⟨false, [.category positive kind]⟩
  | .anchor a => .anchor a
  | .backref group => .backref group

def Escaped.item : Escaped → SetItem
  | .category positive kind => .category positive kind
  | .char c => .single c
  | _ => .single 0

/-! ## Sets -/

/-- The items of a list, each once, in order of first appearance. -/
def distinct (items : List SetItem) : List SetItem :=
  items.foldl (fun kept item => if kept.contains item then kept else kept ++ [item]) []

/-- Reads one end of a range or a single item from its first token. -/
def readSetAtom (token : Text) : Reading Escaped := do
  match token with
  | [c] => return .char c
  | token => readSetEscape token

/-- Reads the items of a set up to its closing bracket. `opened` is the place of the set. -/
def readSetItems (opened : Nat) : Nat → List SetItem → Reading (List SetItem)
  | 0, items => return items
  | fuel + 1, items => do
      let first ← take
      if first.isEmpty then fail .unterminatedSet ((← place) - opened)
      if first = [0x5D] ∧ !items.isEmpty then return items
      let low ← readSetAtom first
      if ← takeIf 0x2D then
        let second ← take
        if second.isEmpty then fail .unterminatedSet ((← place) - opened)
        if second = [0x5D] then return items ++ [low.item, .single 0x2D]
        let high ← readSetAtom second
        match low, high with
        | .char low, .char high =>
            if high < low then
              fail (.badRange first second) (first.length + 1 + second.length)
            readSetItems opened fuel (items ++ [.range low high])
        | _, _ => fail (.badRange first second) (first.length + 1 + second.length)
      else readSetItems opened fuel (items ++ [low.item])

/-- A set of one character is that character. -/
def setNode (negated : Bool) (items : List SetItem) : Node :=
  match distinct items with
  | [.single c] => if negated then .notChar c else .char c
  | items => .set ⟨negated, items⟩

/-- Reads a set after its opening bracket. -/
def readSet : Reading Node := do
  let opened := (← place) - 1
  let negated ← takeIf 0x5E
  let items ← readSetItems opened ((← get).rest.length + 1) []
  return setNode negated items

/-! ## Repeats -/

/-- Counts from this one on are too large. -/
def countLimit : Nat := 4294967295

def readCount (digits : Text) : Reading Nat := do
  if maxDecimalDigits < digits.length then throw (.tooManyDigits digits.length)
  let count := numberOf 10 digits
  if countLimit ≤ count then throw .countTooLarge
  return count

/-- Reads counts in braces after the opening one. Without a closing brace, or with nothing in
between, the opening brace is an ordinary character and nothing else is taken. -/
def readBounds? : Reading (Option (Nat × Option Nat)) := do
  let start := (← get).rest
  let opened ← place
  if (← peek) = [0x7D] then return none
  let low ← takeAll isAsciiDigit
  let high ← if ← takeIf 0x2C then takeAll isAsciiDigit else pure low
  if !(← takeIf 0x7D) then
    moveTo start
    return none
  let least ← if low.isEmpty then pure 0 else readCount low
  if high.isEmpty then return some (least, none)
  let most ← readCount high
  if most < least then fail .reversedBounds ((← place) - opened)
  return some (least, some most)

/-- The bounds of the repeat that a character starts. -/
def readRepeat? (c : CodePoint) : Reading (Option (Nat × Option Nat)) := do
  if c = 0x3F then return some (0, some 1)
  else if c = 0x2A then return some (0, none)
  else if c = 0x2B then return some (1, none)
  else readBounds?

def isRepeatStart (c : CodePoint) : Bool := c == 0x2A || c == 0x2B || c == 0x3F || c == 0x7B

def readGreed : Reading Greed := do
  if ← takeIf 0x3F then return .lazy
  else if ← takeIf 0x2B then return .possessive
  else return .greedy

/-! ## Flags -/

def flag? (c : CodePoint) : Option Flags :=
  if c = 0x69 then some { ignoreCase := true }
  else if c = 0x4C then some {}
  else if c = 0x6D then some { multiLine := true }
  else if c = 0x73 then some { dotAll := true }
  else if c = 0x78 then some { verbose := true }
  else if c = 0x61 then some { ascii := true }
  else if c = 0x74 then some { template := true }
  else if c = 0x75 then some { unicode := true }
  else none

def localeLetter : CodePoint := 0x4C

def isFlagLetter (token : Text) : Bool :=
  match token with
  | [c] => (flag? c).isSome
  | _ => false

/-- The fault of a token that is no flag. -/
def flagFault (token : Text) (otherwise : Fault) : Fault :=
  match token with
  | [c] => if isLetter c then .unknownFlag else otherwise
  | _ => otherwise

/-- Reads the flags to turn on from one letter on, and the token after them. -/
def readFlagsOn : Nat → Flags → Text → Reading (Flags × Text)
  | 0, on, token => return (on, token)
  | fuel + 1, on, token => do
      if token = [localeLetter] then fail .localeFlag 0
      let flag := (flag? (token.headD 0)).getD {}
      let on := on.union flag
      if flag.setsScript ∧ on.ascii ∧ on.unicode then fail .scriptFlagsClash 0
      let next ← take
      if next.isEmpty then fail .missingFlagEnd 0
      if next = [0x29] ∨ next = [0x2D] ∨ next = [0x3A] then return (on, next)
      if !isFlagLetter next then fail (flagFault next .missingFlagEnd) next.length
      readFlagsOn fuel on next

/-- Reads the flags to turn off from one letter on. -/
def readFlagsOff : Nat → Flags → Text → Reading Flags
  | 0, off, _ => return off
  | fuel + 1, off, token => do
      let flag := (flag? (token.headD 0)).getD {}
      if flag.setsScript ∨ token = [localeLetter] then fail .turnsOffScript 0
      let off := off.union flag
      let next ← take
      if next.isEmpty then fail .missingColon 0
      if next = [0x3A] then return off
      if !isFlagLetter next then fail (flagFault next .missingColon) next.length
      readFlagsOff fuel off next

/-- Reads flags from their first token on: none if they are for the whole pattern, which then has
them, and otherwise those to turn on and off in a group. -/
def readFlags (token : Text) : Reading (Option (Flags × Flags)) := do
  let fuel := (← get).rest.length + 1
  let (on, next) ← if token = [0x2D] then pure (({} : Flags), token) else readFlagsOn fuel {} token
  if next = [0x29] then
    modify fun s => { s with flags := s.flags.union on }
    return none
  if on.template then fail .turnsOnGlobalFlag 1
  let off ←
    if next = [0x2D] then do
      let first ← take
      if first.isEmpty then fail .missingFlag 0
      if !isFlagLetter first then fail (flagFault first .missingFlag) first.length
      readFlagsOff fuel {} first
    else pure {}
  if off.template then fail .turnsOffGlobalFlag 1
  if !(on.inter off).isEmpty then fail .turnedOnAndOff 1
  return some (on, off)

/-! ## Expressions -/

/-- A part of a sequence. A group that neither captures nor changes flags stays apart until its
sequence ends, since a repeat after it is of the whole group. -/
inductive Item where
  | single (node : Node)
  | plain (nodes : List Node)

def Item.nodes : Item → List Node
  | .single node => [node]
  | .plain nodes => nodes

def Item.node (item : Item) : Node := Node.ofList item.nodes

/-- The common first leaf of all alternatives. -/
def commonLead? (alternatives : List (List Node)) : Option Node :=
  match alternatives with
  | (lead :: _) :: others =>
      if lead.isLeaf && others.all (fun nodes => nodes.head? == some lead) then some lead else none
  | _ => none

/-- The leaves that all alternatives start with, and the alternatives without them. -/
def factorLeads : Nat → List (List Node) → List Node × List (List Node)
  | 0, alternatives => ([], alternatives)
  | fuel + 1, alternatives =>
      match commonLead? alternatives with
      | none => ([], alternatives)
      | some lead =>
          let (leads, alternatives) := factorLeads fuel (alternatives.map List.tail)
          (lead :: leads, alternatives)

/-- The items of a set that stands for an alternative, if one does. -/
def setItems? : List Node → Option (List SetItem)
  | [.char c] => some [.single c]
  | [.set ⟨false, items⟩] => some items
  | _ => none

def alternation : List (List Node) → Node
  | [] => .empty
  | [nodes] => Node.ofList nodes
  | nodes :: next :: others => .alt (Node.ofList nodes) (alternation (next :: others))

/-- The expressions for two or more alternatives: what they have in common at the start comes
before them, and alternatives of one character each are a set. -/
def joinAlternatives (alternatives : List (List Node)) : List Node :=
  let shortest := (alternatives.map List.length).foldl min (alternatives.headD []).length
  let (leads, alternatives) := factorLeads shortest alternatives
  match alternatives.mapM setItems? with
  | some items => leads ++ [.set ⟨false, distinct items.flatten⟩]
  | none => leads ++ [alternation alternatives]

def skipLine : Nat → Reading Unit
  | 0 => return
  | fuel + 1 => do
      let token ← take
      if token.isEmpty ∨ token = [lineFeed] then return
      skipLine fuel

/-- Skips a comment in parentheses. `opened` is its place. -/
def skipComment (opened : Nat) : Nat → Reading Unit
  | 0 => return
  | fuel + 1 => do
      if (← peek).isEmpty then fail .unterminatedComment ((← place) - opened)
      if (← take) = [0x29] then return
      skipComment opened fuel

/-- Whether a sequence ends before a token. -/
def endsSequence (token : Text) : Bool := token.isEmpty || token == [0x7C] || token == [0x29]

def closeParenthesis (opened : Nat) : Reading Unit := do
  if !(← takeIf 0x29) then fail .unterminatedGroup ((← place) - opened)

/-- Applies a repeat to the last part of a sequence. `opened` is the place after the token. -/
def repeatLast (items : List Item) (token : Text) (opened : Nat) (bounds : Nat × Option Nat) :
    Reading (List Item) := do
  let back := (← place) - opened + token.length
  match items with
  | [] => fail .nothingToRepeat back
  | .single (.anchor _) :: _ => fail .nothingToRepeat back
  | .single (.loop ..) :: _ => fail .multipleRepeat back
  | item :: before =>
      let greed ← readGreed
      return .single (.loop greed bounds.1 bounds.2 item.node) :: before

/-- Reads the reference of a choice: a name or a number. -/
def readChoiceGroup : Reading Nat := do
  let name ← takeNameUpTo 0x29 groupName
  if isIdentifier name then
    match (← get).names.lookup name with
    | some group => return group
    | none => fail (.unknownGroupName name) (name.length + 1)
  else
    match readInteger 10 name with
    | .error _ => fail (.badGroupName name) (name.length + 1)
    | .ok number =>
        if number < 0 then fail (.badGroupName name) (name.length + 1)
        let group := number.toNat
        if group = 0 then fail .badGroupNumber (name.length + 1)
        if 1073741823 ≤ group then fail (.invalidGroup group) (name.length + 1)
        let position := (← place) - name.length - 1
        modify fun s =>
          if s.asked.any (·.1 == group) then s else { s with asked := s.asked ++ [(group, position)] }
        return group

/-- Reads a reference to a group by name. -/
def readNamedReference : Reading Node := do
  let name ← takeNameUpTo 0x29 groupName
  checkName name
  match (← get).names.lookup name with
  | none => fail (.unknownGroupName name) (name.length + 1)
  | some group =>
      if !(← isClosed group) then fail .openGroup (name.length + 1)
      checkOutside group
      return .backref group

mutual

/-- Reads alternatives up to a closing parenthesis or the end. -/
def readAlternatives : Nat → Bool → Bool → Reading (List Node)
  | 0, _, _ => return []
  | fuel + 1, top, verbose => do
      let first ← readSequence fuel top verbose []
      if ← takeIf 0x7C then
        let flags := (← get).flags
        let verbose := if top then flags.verbose else verbose
        let others ← readFurther fuel top verbose
        return joinAlternatives (first :: others)
      else return first

/-- Reads the alternatives after a vertical line. -/
def readFurther : Nat → Bool → Bool → Reading (List (List Node))
  | 0, _, _ => return []
  | fuel + 1, top, verbose => do
      let next ← readSequence fuel false verbose []
      if ← takeIf 0x7C then
        let flags := (← get).flags
        let verbose := if top then flags.verbose else verbose
        return next :: (← readFurther fuel top verbose)
      else return [next]

/-- Reads a sequence after the parts in `items`, latest first. Flags for the whole pattern may
stand only where `first` holds. -/
def readSequence : Nat → Bool → Bool → List Item → Reading (List Node)
  | 0, _, _, items => return items.reverse.flatMap Item.nodes
  | fuel + 1, first, verbose, items => do
      let token ← peek
      if endsSequence token then return items.reverse.flatMap Item.nodes
      skip token.length
      match token with
      | [c] =>
          if verbose && isAsciiBlank c then readSequence fuel first verbose items
          else if verbose && c == 0x23 then
            skipLine ((← get).rest.length + 1)
            readSequence fuel first verbose items
          else if c = 0x5B then
            let node ← readSet
            readSequence fuel first verbose (.single node :: items)
          else if isRepeatStart c then
            let opened ← place
            match ← readRepeat? c with
            | none => readSequence fuel first verbose (.single (.char c) :: items)
            | some bounds =>
                let items ← repeatLast items token opened bounds
                readSequence fuel first verbose items
          else if c = 0x2E then readSequence fuel first verbose (.single .any :: items)
          else if c = 0x28 then
            match ← readParenthesis fuel (first && items.isEmpty) verbose with
            | (some item, _) => readSequence fuel first verbose (item :: items)
            | (none, verbose) => readSequence fuel first verbose items
          else if c = 0x5E then
            readSequence fuel first verbose (.single (.anchor .lineStart) :: items)
          else if c = 0x24 then
            readSequence fuel first verbose (.single (.anchor .lineEnd) :: items)
          else readSequence fuel first verbose (.single (.char c) :: items)
      | escape =>
          let escaped ← readEscape escape
          readSequence fuel first verbose (.single escaped.node :: items)

/-- Reads what an opening parenthesis starts, after it. Comments and flags for the whole pattern
are no part of the sequence; the flags say whether blanks are skipped from there on. -/
def readParenthesis : Nat → Bool → Bool → Reading (Option Item × Bool)
  | 0, _, verbose => return (none, verbose)
  | fuel + 1, first, verbose => do
      let opened := (← place) - 1
      if !(← takeIf 0x3F) then
        let item ← readCapture fuel verbose opened none
        return (some item, verbose)
      else
        let token ← take
        if token.isEmpty then fail .endOfPattern 0
        if token = [0x50] then
          if ← takeIf 0x3C then
            let name ← takeNameUpTo 0x3E groupName
            checkName name
            let item ← readCapture fuel verbose opened (some name)
            return (some item, verbose)
          else if ← takeIf 0x3D then
            return (some (.single (← readNamedReference)), verbose)
          else
            let next ← take
            if next.isEmpty then fail .endOfPattern 0
            fail (.unknownExtension (0x50 :: next)) (next.length + 2)
        else if token = [0x3A] then
          let nodes ← readAlternatives fuel false verbose
          closeParenthesis opened
          return (some (.plain nodes), verbose)
        else if token = [0x23] then
          skipComment opened ((← get).rest.length + 1)
          return (none, verbose)
        else if token = [0x3D] ∨ token = [0x21] then
          let nodes ← readAlternatives fuel false verbose
          closeParenthesis opened
          return (some (.single (.look false (token == [0x21]) (Node.ofList nodes))), verbose)
        else if token = [0x3C] then
          let next ← take
          if next.isEmpty then fail .endOfPattern 0
          if next ≠ [0x3D] ∧ next ≠ [0x21] then
            fail (.unknownExtension (0x3C :: next)) (next.length + 2)
          let outside := (← get).outsideGroups
          let count ← groupCount
          modify fun s => { s with outsideGroups := some (outside.getD count) }
          let nodes ← readAlternatives fuel false verbose
          modify fun s => { s with outsideGroups := outside }
          closeParenthesis opened
          return (some (.single (.look true (next == [0x21]) (Node.ofList nodes))), verbose)
        else if token = [0x28] then
          let group ← readChoiceGroup
          checkOutside group
          let present ← readSequence fuel false verbose []
          let absent ←
            if ← takeIf 0x7C then do
              let absent ← readSequence fuel false verbose []
              if (← peek) = [0x7C] then fail .tooManyBranches 0
              pure absent
            else pure []
          closeParenthesis opened
          return (some (.single (.choice group (Node.ofList present) (Node.ofList absent))), verbose)
        else if token = [0x3E] then
          let nodes ← readAlternatives fuel false verbose
          closeParenthesis opened
          return (some (.single (.atomic (Node.ofList nodes))), verbose)
        else if isFlagLetter token ∨ token = [0x2D] then
          match ← readFlags token with
          | none =>
              if !first then fail .lateFlags ((← place) - opened)
              return (none, (← get).flags.verbose)
          | some (on, off) =>
              let nodes ← readAlternatives fuel false ((verbose || on.verbose) && !off.verbose)
              closeParenthesis opened
              return (some (.single (.group none on off (Node.ofList nodes))), verbose)
        else fail (.unknownExtension token) (token.length + 1)

/-- Reads the body of a capturing group. -/
def readCapture : Nat → Bool → Nat → Option Text → Reading Item
  | 0, _, _, _ => return .plain []
  | fuel + 1, verbose, opened, name => do
      let group ← openGroup name
      let nodes ← readAlternatives fuel false verbose
      closeParenthesis opened
      let body := Node.ofList nodes
      closeGroup group body
      return .single (.group (some group) {} {} body)

end

/-- Reads a whole pattern. -/
def readWhole (pattern : Text) : Reading Node := do
  moveTo pattern
  let nodes ← readAlternatives (4 * pattern.length + 8) true false
  return Node.ofList nodes

end UrlRules.Pattern.Reader

namespace UrlRules.Pattern

/-- The fault of a whole expression: a repeat where they are refused, or a look behind over a
number of characters that is not fixed. -/
def Node.fault? (widths : Nat → Width) (template : Bool) : Node → Option Error
  | .seq p q => p.fault? widths template <|> q.fault? widths template
  | .alt p q => p.fault? widths template <|> q.fault? widths template
  | .group _ _ _ body => body.fault? widths template
  | .atomic body => body.fault? widths template
  | .look behind _ body =>
      let w := body.width widths
      if behind && maxLookbehind < w.least then some .longLookbehind
      else if behind && w.least != w.most then some .unboundedLookbehind
      else body.fault? widths template
  | .choice _ present absent => present.fault? widths template <|> absent.fault? widths template
  | .loop greed _ _ body => if template then some (.template greed) else body.fault? widths template
  | _ => none

def Reader.Failure.toError (pattern : Text) : Reader.Failure → Error
  | .at fault position => .malformed fault pattern position
  | .countTooLarge => .countTooLarge
  | .codePointTooLarge => .codePointTooLarge
  | .tooManyDigits count => .tooManyDigits count

/-- The pattern that a text stands for. -/
def read (pattern : Text) : Except Error Pattern :=
  match (Reader.readWhole pattern).run { total := pattern.length, rest := [] } with
  | .error failure => .error (failure.toError pattern)
  | .ok (root, s) =>
      if s.flags.ascii && s.flags.unicode then .error .scriptsClash
      else if !s.rest.isEmpty then
        .error (.malformed .unbalanced pattern (s.total - s.rest.length))
      else
        match s.asked.find? fun (group, _) => s.widths.length < group with
        | some (group, position) => .error (.malformed (.invalidGroup group) pattern position)
        | none =>
            let widths := Reader.widthIn s.widths
            match root.fault? widths s.flags.template with
            | some error => .error error
            | none =>
                .ok { root, flags := s.flags, groups := s.widths.length
                      widths := s.widths.map (·.getD ⟨0, 0⟩) }

end UrlRules.Pattern
